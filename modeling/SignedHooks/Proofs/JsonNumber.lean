/-
# What the reader of JSON numbers takes

A number is taken as far as its productions go, and its value is an exact
integer or the double of its leading digits and their power of ten
(`Json.readNumber_eq_ok_iff`). Where another digit, a point or a power could
follow, the reader would go on; behind a number that is complete none of them may
stand (`Json.Numeral.Stops`). The reader takes one digit after another as long as
64 bits hold them, and so the leading digits are the longest row of digits that
they hold (`Json.fit_eq`). A number has a value exactly if it has a finite double
in this way (`Json.Numeral.exists_number?_iff`).

Key definitions: `Json.NoDigit`, `Json.Numeral.Stops`.
Key theorems: `Json.fit_eq`, `Json.Numeral.exists_number?_iff`,
`Json.readNumber_eq_ok_iff`.
-/
import SignedHooks.Proofs.JsonGrammar

namespace SignedHooks
namespace Json

open Decimal (Digits ofDigits)

/-- The characters do not begin with a digit. -/
def NoDigit (rest : List Char) : Prop :=
  ∀ c ∈ rest.head?, c.isDigit = false

/-- The number does not go on with these characters. -/
structure Numeral.Stops (n : Numeral) (rest : List Char) : Prop where
  /-- There is no further digit. -/
  noDigit : NoDigit rest
  /-- There is no power, unless the number has one already. -/
  noPower : n.exponent = none → rest.head? ≠ some 'e' ∧ rest.head? ≠ some 'E'
  /-- There is no point, unless the number has one or a power already. -/
  noPoint : n.exponent = none → n.fraction = none → rest.head? ≠ some '.'

/-- Behind a power only a digit could follow. -/
theorem Numeral.stops_of_exponent {n : Numeral} {rest : List Char} (h : n.exponent ≠ none)
    (hr : NoDigit rest) : n.Stops rest :=
  ⟨hr, fun hn => absurd hn h, fun hn => absurd hn h⟩

theorem head?_ne_some {c : Char} {rest : List Char} (h : ∀ tail, rest = c :: tail → False) :
    rest.head? ≠ some c := fun hc =>
  have ⟨tail, heq⟩ := List.head?_eq_some_iff.mp hc
  h tail heq

/-! ### Leading digits -/

section

variable {n : Nat} {c : Char} {ds : List Char}

theorem ofDigitChars_cons (n : Nat) (c : Char) (ds : List Char) :
    Nat.ofDigitChars 10 (c :: ds) n = Nat.ofDigitChars 10 ds (10 * n + Decimal.digitValue c) :=
  Nat.ofDigitChars_cons

/-- The digits that are kept do not take a number beyond 64 bits. -/
theorem lead_lt (h : n < 2 ^ 64) (ds : List Char) : lead n ds < 2 ^ 64 :=
  Nat.findGreatest_spec (P := fun k => Nat.ofDigitChars 10 (ds.take k) n < 2 ^ 64)
    (Nat.zero_le ds.length) h

theorem kept_le (n : Nat) (ds : List Char) : kept n ds ≤ ds.length :=
  Nat.findGreatest_le _

/-- One more digit does. -/
theorem not_lt_of_kept_lt {k : Nat} (h : kept n ds < k) (hk : k ≤ ds.length) :
    ¬ Nat.ofDigitChars 10 (ds.take k) n < 2 ^ 64 :=
  Nat.findGreatest_is_greatest (P := fun k => Nat.ofDigitChars 10 (ds.take k) n < 2 ^ 64) h hk

/-- No digit is kept if the first one is too much. -/
theorem kept_cons_of_le (h : 2 ^ 64 ≤ 10 * n + Decimal.digitValue c) : kept n (c :: ds) = 0 := by
  refine Nat.findGreatest_eq_zero_iff.mpr fun k hpos _ => ?_
  obtain ⟨k, rfl⟩ := Nat.exists_eq_add_one.mpr hpos
  rw [List.take_succ_cons, ofDigitChars_cons]
  exact not_lt.mpr (h.trans (Decimal.le_ofDigitChars _ _))

theorem kept_cons_of_lt (h : 10 * n + Decimal.digitValue c < 2 ^ 64) :
    kept n (c :: ds) = kept (10 * n + Decimal.digitValue c) ds + 1 := by
  refine Nat.findGreatest_eq_iff.mpr ⟨Nat.succ_le_succ (kept_le _ _), fun _ => ?_, ?_⟩
  · rw [List.take_succ_cons, ofDigitChars_cons]
    exact lead_lt h ds
  · intro k hk hle
    obtain ⟨k, rfl⟩ := Nat.exists_eq_add_one.mpr (Nat.zero_lt_of_lt hk)
    rw [List.take_succ_cons, ofDigitChars_cons]
    exact not_lt_of_kept_lt (Nat.lt_of_succ_lt_succ hk) (Nat.le_of_succ_le_succ hle)

/-- The digits that fit are those that are kept. -/
theorem fit_eq : ∀ {n : Nat} (ds : List Char), n < 2 ^ 64 →
    fit n ds = (lead n ds, ds.length - kept n ds)
  | _, [], _ => rfl
  | n, c :: ds, h => by
    unfold fit
    dsimp only
    split_ifs with hover
    · have hle : 2 ^ 64 ≤ 10 * n + Decimal.digitValue c := by
        rw [greatestUnsigned] at hover
        omega
      have hkept : kept n (c :: ds) = 0 := kept_cons_of_le hle
      rw [lead, hkept]
      rfl
    · have hlt : 10 * n + Decimal.digitValue c < 2 ^ 64 := by
        rw [greatestUnsigned] at hover
        omega
      rw [fit_eq ds hlt, lead, lead, kept_cons_of_lt hlt, List.take_succ_cons, ofDigitChars_cons,
        List.length_cons, Nat.add_sub_add_right]

/-- All digits are kept exactly if 64 bits hold them. -/
theorem kept_eq_length_iff (h : n < 2 ^ 64) :
    kept n ds = ds.length ↔ Nat.ofDigitChars 10 ds n < 2 ^ 64 := by
  constructor
  · intro heq
    have hlt := lead_lt h ds
    rwa [lead, heq, List.take_length] at hlt
  · intro hlt
    refine le_antisymm (kept_le n ds) (Nat.le_findGreatest le_rfl ?_)
    rwa [List.take_length]

theorem lead_of_lt (h : Decimal.ofDigits ds < 2 ^ 64) : lead 0 ds = Decimal.ofDigits ds := by
  have hlength : kept 0 ds = ds.length := (kept_eq_length_iff (by decide)).mpr h
  rw [lead, hlength, List.take_length]
  rfl

end

/-! ### Which numbers have a value -/

namespace Numeral

variable (n : Numeral)

theorem leading_lt : n.leading < 2 ^ 64 :=
  lead_lt (lead_lt (by decide) n.whole) _

variable {n}

/-- A number whose leading digits are all of its digits before the point is finite. -/
theorem finite_of_scale_eq_zero (hscale : n.scale = 0) (hexponent : n.exponent = none) :
    n.Finite := by
  by_cases hzero : n.leading = 0
  · exact .inl hzero
  have hone : (1 : ℚ) ≤ n.leading := by exact_mod_cast Nat.pos_of_ne_zero hzero
  have hlt : (n.leading : ℚ) < 2 ^ 64 := by exact_mod_cast n.leading_lt
  have hlead := (Binary64.rounded_bounds hone).2
  have hten := (Binary64.rounded_bounds (le_refl 1)).2
  have hpos := (Binary64.rounded_pos (le_refl 1)).le
  refine .inr (.inr ⟨by rw [hexponent]; decide, by omega, fun _ => ?_⟩)
  rw [hscale, zpow_zero]
  calc Binary64.rounded n.leading * Binary64.rounded 1 ≤ 2 ^ 65 * 2 := by
        gcongr <;> linarith
    _ = 2 ^ (66 : Int) := by norm_num
    _ ≤ 2 ^ (1023 : Int) := zpow_le_zpow_right₀ one_le_two (by decide)
    _ < Binary64.overflow := Binary64.two_pow_lt_overflow

/-- Without a fraction the leading digits are those before the point. -/
theorem leading_of_whole (h : n.fraction = none) : n.leading = lead 0 n.whole := by
  rw [leading, h]
  rfl

theorem places_of_whole (h : n.fraction = none) :
    n.places = (n.whole.length - kept 0 n.whole : Nat) := by
  rw [places, h]
  exact sub_zero _

/-- They are all of them exactly if 64 bits hold these. -/
theorem places_eq_zero_iff (h : n.fraction = none) :
    n.places = 0 ↔ Decimal.ofDigits n.whole < 2 ^ 64 := by
  have hle := kept_le 0 n.whole
  have hlength : kept 0 n.whole = n.whole.length ↔ Decimal.ofDigits n.whole < 2 ^ 64 :=
    kept_eq_length_iff (by decide)
  rw [places_of_whole h, ← hlength]
  omega

/-- An exact integer has all its digits in 64 bits. -/
theorem Exact.whole_lt (h : n.Exact) : Decimal.ofDigits n.whole < 2 ^ 64 := by
  obtain ⟨-, -, hlow, hhigh, -⟩ := h
  unfold integer at hlow hhigh
  split_ifs at hlow hhigh <;> omega

theorem Exact.finite (h : n.Exact) : n.Finite := by
  have hplaces : n.places = 0 := (places_eq_zero_iff h.1).mpr h.whole_lt
  refine finite_of_scale_eq_zero ?_ h.2.1
  rw [scale, hplaces, h.2.1]
  rfl

/-- A number with a point or a power is a double. -/
theorem number?_of_inexact (h : n.fraction ≠ none ∨ n.exponent ≠ none) :
    n.number? = scaled? n.negative n.leading n.places (n.exponent.getD 0) := by
  have hexact : ¬ n.Exact := fun hexact => h.elim (· hexact.1) (· hexact.2.1)
  have hwhole : ¬ (n.fraction = none ∧ n.exponent = none ∧ n.places = 0) :=
    fun hwhole => h.elim (· hwhole.1) (· hwhole.2.1)
  rw [number?, if_neg hexact, if_neg hwhole]

theorem scaled?_eq_none_iff (n : Numeral) :
    scaled? n.negative n.leading n.places (n.exponent.getD 0) = none ↔ ¬ n.Finite := by
  unfold scaled? Finite
  split_ifs with hlow hhigh hzero
  · exact iff_of_false nofun fun h => h (.inr (.inl hlow))
  · exact iff_of_false nofun fun h => h (.inl hzero)
  · refine iff_of_true rfl ?_
    rintro (h | h | ⟨h, -⟩)
    · exact hzero h
    · exact hlow h
    · omega
  · have hscale : n.places + n.exponent.getD 0 = n.scale := rfl
    rw [Option.map_eq_none_iff, Binary64.ofParts_eq_none_iff, hscale]
    simp only [hlow, not_lt.mp hhigh, false_or, true_and, not_or, not_and, not_forall, not_lt,
      exists_prop]
    by_cases hlarge : 308 < n.scale
    · simp [hlarge, not_le.mpr hlarge, (by omega : 0 ≤ n.scale)]
    · simp [hlarge, not_lt.mp hlarge]

/-- A number has a value exactly if it has a finite double. -/
theorem exists_number?_iff (n : Numeral) : (∃ x, n.number? = some x) ↔ n.Finite := by
  unfold number?
  split_ifs with hexact hwhole
  · exact iff_of_true ⟨_, rfl⟩ hexact.finite
  · obtain ⟨-, hexponent, hplaces⟩ := hwhole
    refine iff_of_true ⟨_, rfl⟩ (finite_of_scale_eq_zero ?_ hexponent)
    rw [scale, hplaces, hexponent]
    rfl
  · rw [← not_iff_not, ← scaled?_eq_none_iff, Option.eq_none_iff_forall_ne_some, not_exists]

end Numeral

/-! ### Runs of digits -/

theorem spanDigits_append {ds rest : List Char} (hd : ∀ c ∈ ds, c.isDigit = true)
    (hr : NoDigit rest) : spanDigits (ds ++ rest) = (ds, rest) := by
  have hrest : rest.takeWhile Char.isDigit = [] ∧ rest.dropWhile Char.isDigit = rest := by
    cases rest with
    | nil => exact ⟨rfl, rfl⟩
    | cons c tail => simp [hr c rfl]
  rw [spanDigits, List.takeWhile_append_of_pos hd, List.dropWhile_append_of_pos hd, hrest.1,
    hrest.2, List.append_nil]

/-- A text begins with a run of digits or not. -/
theorem spanDigits_cases (cs : List Char) : (∃ rest, spanDigits cs = ([], rest)) ∨
    ∃ ds rest, Digits ds ∧ NoDigit rest ∧ cs = ds ++ rest := by
  obtain ⟨ds, rest, rfl, hd, hr⟩ := Decimal.exists_digits_append cs
  have hr : NoDigit rest := by
    intro c hc
    cases rest with
    | nil => cases hc
    | cons d tail =>
      cases hc
      exact hr c tail rfl
  cases ds with
  | nil => exact .inl ⟨rest, spanDigits_append hd hr⟩
  | cons d ds => exact .inr ⟨d :: ds, rest, ⟨List.cons_ne_nil _ _, hd⟩, hr, rfl⟩

/-! ### Doubles and integers -/

variable {negative negativePower : Bool} {significand : Nat} {power : Int}
  {cs rest whole exponent : List Char} {p : Number × List Char}

theorem readDouble_eq_ok_iff : readDouble negative significand power rest = .ok p ↔
    (Binary64.ofParts significand power).map (signed negative) = some p.1 ∧ p.2 = rest := by
  obtain ⟨x, rest'⟩ := p
  unfold readDouble
  cases Binary64.ofParts significand power <;> simp [eq_comm]

theorem scaled?_zero (negative : Bool) (significand : Nat) (power : Int) :
    scaled? negative significand power 0 =
      (Binary64.ofParts significand power).map (signed negative) := by
  have hlow : ¬ (0 : Int) < -powerLimit := by decide
  have hhigh : ¬ powerLimit < (0 : Int) := by decide
  rw [scaled?, if_neg hlow, if_neg hhigh, Int.add_zero]

theorem ofDigits_take_le (ds : List Char) (k : Nat) : ofDigits (ds.take k) ≤ ofDigits ds :=
  calc ofDigits (ds.take k) ≤ Nat.ofDigitChars 10 (ds.drop k) (ofDigits (ds.take k)) :=
        Decimal.le_ofDigitChars _ _
    _ = ofDigits (ds.take k ++ ds.drop k) := (Nat.ofDigitChars_append 0).symm
    _ = ofDigits ds := by rw [List.take_append_drop]

/-- The digits of an exponent are read to their end unless they are too large. -/
theorem excess?_eq_none_iff : excess? exponent = none ↔ ofDigits exponent ≤ greatestPower := by
  rw [excess?, List.find?_eq_none]
  simp only [decide_eq_true_eq, not_lt, List.mem_range]
  constructor
  · intro h
    have hall := h exponent.length (Nat.lt_succ_self _)
    rwa [List.take_length] at hall
  · intro h k _
    exact (ofDigits_take_le exponent k).trans h

theorem readPower_eq_ok_iff :
    readPower negative significand power negativePower exponent rest = .ok p ↔
      scaled? negative significand power (if negativePower then -ofDigits exponent
        else ofDigits exponent) = some p.1 ∧ p.2 = rest := by
  obtain ⟨x, rest'⟩ := p
  have hlimit : powerLimit = greatestPower := rfl
  unfold readPower scaled?
  cases hexcess : excess? exponent with
  | none =>
    have hle := excess?_eq_none_iff.mp hexcess
    cases negativePower
    · have hlow : ¬ (ofDigits exponent : Int) < -powerLimit := by omega
      have hhigh : ¬ powerLimit < (ofDigits exponent : Int) := by omega
      simp only [hlow, hhigh, Bool.false_eq_true, if_false]
      exact readDouble_eq_ok_iff
    · have hlow : ¬ -(ofDigits exponent : Int) < -powerLimit := by omega
      have hhigh : ¬ powerLimit < -(ofDigits exponent : Int) := by omega
      simp only [hlow, hhigh, if_true, if_false, ← Int.sub_eq_add_neg]
      exact readDouble_eq_ok_iff
  | some k =>
    have hlt : greatestPower < ofDigits exponent := by
      by_contra hle
      rw [excess?_eq_none_iff.mpr (not_lt.mp hle)] at hexcess
      cases hexcess
    cases negativePower
    · have hlow : ¬ (ofDigits exponent : Int) < -powerLimit := by omega
      have hhigh : powerLimit < (ofDigits exponent : Int) := by omega
      by_cases hzero : significand = 0 <;> simp [hlow, hhigh, hzero, eq_comm]
    · have hlow : -(ofDigits exponent : Int) < -powerLimit := by omega
      simp [hlow, eq_comm]

/-- An integer whose digits have 64 bits is exact, or the double next to it. -/
theorem number?_of_whole_lt (negative : Bool) (h : ofDigits whole < 2 ^ 64) (rest : List Char) :
    (Numeral.mk negative whole none none).number? =
      some (readInteger negative (ofDigits whole) rest).1 := by
  have hplaces : (Numeral.mk negative whole none none).places = 0 :=
    (Numeral.places_eq_zero_iff rfl).mpr h
  have hleading : (Numeral.mk negative whole none none).leading = ofDigits whole :=
    (Numeral.leading_of_whole rfl).trans (lead_of_lt h)
  have hexact : (Numeral.mk negative whole none none).Exact ↔
      (negative = true → 0 < ofDigits whole ∧ ofDigits whole ≤ 9223372036854775808) := by
    cases negative <;> simp [Numeral.Exact, Numeral.integer] <;> omega
  rw [Numeral.number?, hplaces, hleading]
  cases negative with
  | false => simp [hexact, readInteger, Numeral.integer]
  | true =>
    simp only [hexact, readInteger, Numeral.integer, if_true, true_implies, and_self]
    split_ifs <;> rfl

/-! ### The parts of a number -/

/-- The digits of a power, behind its sign. -/
def readUnsigned (negative : Bool) (significand : Nat) (power : Int) (negativePower : Bool)
    (cs : List Char) : Except Fault (Number × List Char) :=
  match spanDigits cs with
  | ([], []) => .error (.atEnd .endInValue)
  | ([], other) => .error (.within .badNumber other)
  | (exponent, rest) => readPower negative significand power negativePower exponent rest

theorem readExponent_minus (cs : List Char) : readExponent negative significand power ('-' :: cs) =
    readUnsigned negative significand power true cs := rfl

theorem readExponent_plus (cs : List Char) : readExponent negative significand power ('+' :: cs) =
    readUnsigned negative significand power false cs := rfl

theorem readExponent_unsigned (hplus : cs.head? ≠ some '+') (hminus : cs.head? ≠ some '-') :
    readExponent negative significand power cs =
      readUnsigned negative significand power false cs := by
  have hplus' : (cs.head? == some '+') = false := beq_eq_false_iff_ne.mpr hplus
  have hminus' : (cs.head? == some '-') = false := beq_eq_false_iff_ne.mpr hminus
  simp only [readExponent, hplus', hminus', Bool.or_self, Bool.false_eq_true, if_false]
  rfl

theorem readUnsigned_append {ds : List Char} (hd : Digits ds)
    (hr : NoDigit rest) :
    readUnsigned negative significand power negativePower (ds ++ rest) =
      readPower negative significand power negativePower ds rest := by
  obtain ⟨d, ds, rfl⟩ := List.exists_cons_of_ne_nil hd.1
  rw [readUnsigned, spanDigits_append hd.2 hr]

theorem exists_digits_of_readUnsigned
    (h : readUnsigned negative significand power negativePower cs = .ok p) :
    ∃ ds rest, cs = ds ++ rest ∧ Digits ds ∧ NoDigit rest := by
  rcases spanDigits_cases cs with ⟨rest, hspan⟩ | ⟨ds, rest, hd, hr, heq⟩
  · rw [readUnsigned, hspan] at h
    cases rest <;> cases h
  · exact ⟨ds, rest, heq, hd, hr⟩

/-- The sign and the digits of a power are read. -/
theorem readExponent_eq_ok_iff {front : List Char} {n : Int} (h : Decimal.Spells front n)
    (hr : NoDigit rest) :
    readExponent negative significand power (front ++ rest) = .ok p ↔
      scaled? negative significand power n = some p.1 ∧ p.2 = rest := by
  cases h with
  | @plain ds hd =>
    have hsign : (front ++ rest).head? ≠ some '+' ∧ (front ++ rest).head? ≠ some '-' := by
      obtain ⟨d, ds, rfl⟩ := List.exists_cons_of_ne_nil hd.1
      simpa using hd.head_ne
    rw [readExponent_unsigned hsign.1 hsign.2, readUnsigned_append hd hr, readPower_eq_ok_iff,
      if_neg Bool.false_ne_true]
  | plus hd =>
    rw [List.cons_append, readExponent_plus, readUnsigned_append hd hr, readPower_eq_ok_iff,
      if_neg Bool.false_ne_true]
  | minus hd =>
    rw [List.cons_append, readExponent_minus, readUnsigned_append hd hr, readPower_eq_ok_iff,
      if_pos rfl]

/-- What is read as a power is an integer, behind either letter. -/
theorem exists_spells_of_readExponent {e : Char} (he : e = 'e' ∨ e = 'E')
    (h : readExponent negative significand power cs = .ok p) :
    ∃ front n rest, e :: cs = front ++ rest ∧ SpellsExponent front (some n) ∧ NoDigit rest := by
  by_cases hminus : cs.head? = some '-'
  · obtain ⟨tail, rfl⟩ := List.head?_eq_some_iff.mp hminus
    obtain ⟨ds, rest, rfl, hd, hr⟩ := exists_digits_of_readUnsigned h
    exact ⟨_, _, rest, rfl, .some he (.minus hd), hr⟩
  by_cases hplus : cs.head? = some '+'
  · obtain ⟨tail, rfl⟩ := List.head?_eq_some_iff.mp hplus
    obtain ⟨ds, rest, rfl, hd, hr⟩ := exists_digits_of_readUnsigned h
    exact ⟨_, _, rest, rfl, .some he (.plus hd), hr⟩
  · rw [readExponent_unsigned hplus hminus] at h
    obtain ⟨ds, rest, rfl, hd, hr⟩ := exists_digits_of_readUnsigned h
    exact ⟨_, _, rest, rfl, .some he (.plain hd), hr⟩

/-- Behind the digits of a fraction there is a power, or the number is complete. -/
theorem readFraction_eq_ok_iff {ds e : List Char} {exponent : Option Int} (hd : Digits ds)
    (he : SpellsExponent e exponent)
    (hstop : (Numeral.mk negative whole (some ds) exponent).Stops rest) :
    readFraction negative (lead 0 whole) (whole.length - kept 0 whole) (ds ++ (e ++ rest)) =
      .ok p ↔ (Numeral.mk negative whole (some ds) exponent).number? = some p.1 ∧ p.2 = rest := by
  have hfit : fit (lead 0 whole) ds =
      (lead (lead 0 whole) ds, ds.length - kept (lead 0 whole) ds) :=
    fit_eq ds (lead_lt (by decide) whole)
  have hkept := kept_le (lead 0 whole) ds
  have hplaces : ((whole.length - kept 0 whole : Nat) : Int) +
      (ds.length - kept (lead 0 whole) ds : Nat) - ds.length =
        (Numeral.mk negative whole (some ds) exponent).places := by
    simp only [Numeral.places, Option.getD_some]
    omega
  have hleading : (Numeral.mk negative whole (some ds) exponent).leading =
    lead (lead 0 whole) ds := rfl
  rw [Numeral.number?_of_inexact (.inl (Option.some_ne_none ds)), hleading]
  obtain ⟨d, ds, rfl⟩ := List.exists_cons_of_ne_nil hd.1
  cases he with
  | none =>
    rw [List.nil_append, readFraction, spanDigits_append hd.2 hstop.noDigit]
    simp only [hfit, hplaces]
    split
    · exact absurd rfl (hstop.noPower rfl).1
    · exact absurd rfl (hstop.noPower rfl).2
    · rw [readDouble_eq_ok_iff, Option.getD_none, scaled?_zero]
  | @some e cs n he hs =>
    have hr : NoDigit (e :: cs ++ rest) := by
      rintro c ⟨⟩
      rcases he with rfl | rfl <;> rfl
    rw [readFraction, spanDigits_append hd.2 hr]
    simp only [hfit, hplaces]
    rcases he with rfl | rfl <;> exact readExponent_eq_ok_iff hs hstop.noDigit

/-- What is read behind a point is a run of digits, and a power or none. -/
theorem exists_spells_of_readFraction {left : Nat}
    (h : readFraction negative significand left cs = .ok p) (whole : List Char) :
    ∃ ds e exponent rest, cs = ds ++ (e ++ rest) ∧ Digits ds ∧ SpellsExponent e exponent ∧
      (Numeral.mk negative whole (some ds) exponent).Stops rest := by
  rcases spanDigits_cases cs with ⟨rest, hspan⟩ | ⟨ds, rest, hd, hr, rfl⟩
  · rw [readFraction, hspan] at h
    cases rest <;> cases h
  obtain ⟨d, ds, rfl⟩ := List.exists_cons_of_ne_nil hd.1
  rw [readFraction, spanDigits_append hd.2 hr] at h
  dsimp only at h
  split at h
  · obtain ⟨e, n, rest, heq, he, hr⟩ := exists_spells_of_readExponent (.inl rfl) h
    rw [heq]
    exact ⟨_, e, some n, rest, rfl, hd, he, Numeral.stops_of_exponent (Option.some_ne_none n) hr⟩
  · obtain ⟨e, n, rest, heq, he, hr⟩ := exists_spells_of_readExponent (.inr rfl) h
    rw [heq]
    exact ⟨_, e, some n, rest, rfl, hd, he, Numeral.stops_of_exponent (Option.some_ne_none n) hr⟩
  · next hlower hupper =>
    refine ⟨_, [], none, rest, rfl, hd, .none, hr, fun _ => ?_, fun _ hn => by cases hn⟩
    exact ⟨head?_ne_some hlower, head?_ne_some hupper⟩

/-- Whole digits alone are an integer, or a double if 64 bits do not hold them. -/
theorem readInteger_eq_ok_iff :
    (if (fit 0 whole).2 = 0 then .ok (readInteger negative (fit 0 whole).1 rest)
      else readDouble negative (fit 0 whole).1 (fit 0 whole).2 rest) = .ok p ↔
      (Numeral.mk negative whole none none).number? = some p.1 ∧ p.2 = rest := by
  have hplaces : (Numeral.mk negative whole none none).places =
    (whole.length - kept 0 whole : Nat) := Numeral.places_of_whole rfl
  have hall := Numeral.places_eq_zero_iff (n := Numeral.mk negative whole none none) rfl
  rw [fit_eq whole (by decide)]
  by_cases hlt : ofDigits whole < 2 ^ 64
  · have hzero : whole.length - kept 0 whole = 0 := by
      rw [hplaces] at hall
      exact_mod_cast hall.mpr hlt
    have hrest : (readInteger negative (ofDigits whole) rest).2 = rest := by
      unfold readInteger
      split_ifs <;> rfl
    simp only [hzero, if_true, lead_of_lt hlt, number?_of_whole_lt negative hlt rest]
    rw [Except.ok.injEq, Option.some.injEq, Prod.ext_iff, hrest, eq_comm (a := rest)]
  · have hzero : ¬ whole.length - kept 0 whole = 0 := by
      rw [hplaces] at hall
      exact fun h => hlt (hall.mp (by exact_mod_cast h))
    have hexact : ¬ (Numeral.mk negative whole none none).Exact := fun h => hlt h.whole_lt
    have hnumber : (Numeral.mk negative whole none none).number? =
        scaled? negative (lead 0 whole) (whole.length - kept 0 whole : Nat) 0 := by
      rw [Numeral.number?, if_neg hexact, if_neg fun h => hlt (hall.mp h.2.2), hplaces,
        Numeral.leading_of_whole rfl]
      rfl
    simp only [hzero, if_false]
    rw [hnumber, scaled?_zero, readDouble_eq_ok_iff]

/-- Behind the whole digits there is a point, a power or neither. -/
theorem readWhole_eq_ok_iff {f e : List Char} {fraction : Option (List Char)}
    {exponent : Option Int} (hf : SpellsFraction f fraction) (he : SpellsExponent e exponent)
    (hstop : (Numeral.mk negative whole fraction exponent).Stops rest) :
    readWhole negative whole (f ++ (e ++ rest)) = .ok p ↔
      (Numeral.mk negative whole fraction exponent).number? = some p.1 ∧ p.2 = rest := by
  have hfit : fit 0 whole = (lead 0 whole, whole.length - kept 0 whole) :=
    fit_eq whole (by decide)
  cases hf with
  | some hd =>
    have hread := readFraction_eq_ok_iff (p := p) hd he hstop
    rw [← hread]
    simp only [List.cons_append, readWhole, hfit]
  | none =>
    cases he with
    | none =>
      rw [List.nil_append, List.nil_append]
      unfold readWhole
      dsimp only
      split
      · exact absurd rfl (hstop.noPoint rfl rfl)
      · exact absurd rfl (hstop.noPower rfl).1
      · exact absurd rfl (hstop.noPower rfl).2
      · exact readInteger_eq_ok_iff
    | @some e cs n he hs =>
      have hread : readWhole negative whole ([] ++ (e :: cs ++ rest)) =
          readExponent negative (lead 0 whole) (whole.length - kept 0 whole : Nat)
            (cs ++ rest) := by
        rcases he with rfl | rfl <;>
          simp only [List.nil_append, List.cons_append, readWhole, hfit]
      rw [Numeral.number?_of_inexact (.inr (Option.some_ne_none n)), hread,
        readExponent_eq_ok_iff hs hstop.noDigit, Numeral.leading_of_whole rfl,
        Numeral.places_of_whole rfl, Option.getD_some]

/-- What is read behind the whole digits is a fraction or none, and a power or
none. -/
theorem exists_spells_of_readWhole (h : readWhole negative whole cs = .ok p) (hr : NoDigit cs) :
    ∃ f e fraction exponent rest, cs = f ++ (e ++ rest) ∧ SpellsFraction f fraction ∧
      SpellsExponent e exponent ∧ (Numeral.mk negative whole fraction exponent).Stops rest := by
  unfold readWhole at h
  dsimp only at h
  split at h
  · obtain ⟨ds, e, exponent, rest, rfl, hd, he, hstop⟩ := exists_spells_of_readFraction h whole
    exact ⟨'.' :: ds, e, some ds, exponent, rest, rfl, .some hd, he, hstop⟩
  · obtain ⟨e, n, rest, heq, he, hr⟩ := exists_spells_of_readExponent (.inl rfl) h
    rw [heq]
    exact ⟨[], e, none, some n, rest, rfl, .none, he,
      Numeral.stops_of_exponent (Option.some_ne_none n) hr⟩
  · obtain ⟨e, n, rest, heq, he, hr⟩ := exists_spells_of_readExponent (.inr rfl) h
    rw [heq]
    exact ⟨[], e, none, some n, rest, rfl, .none, he,
      Numeral.stops_of_exponent (Option.some_ne_none n) hr⟩
  · next hpoint hlower hupper =>
    refine ⟨[], [], none, none, cs, rfl, .none, .none, hr, fun _ => ?_, fun _ _ => ?_⟩
    · exact ⟨head?_ne_some hlower, head?_ne_some hupper⟩
    · exact head?_ne_some hpoint

/-- Digits are read as the whole digits of a number, unless a zero stands in front
of others. -/
theorem readNumber_append_eq_ok_iff {ds : List Char} (hd : Digits ds)
    (hr : NoDigit rest) : readNumber negative (ds ++ rest) = .ok p ↔
      IsWhole ds ∧ readWhole negative ds rest = .ok p := by
  rw [readNumber, spanDigits_append hd.2 hr]
  obtain ⟨d, ds, rfl⟩ := List.exists_cons_of_ne_nil hd.1
  split
  · next heq => cases heq
  · next heq => cases heq
  · next digit digits _ heq =>
    cases heq
    refine iff_of_false (fun h => by cases h) fun h => ?_
    have := h.1.2 rfl
    cases this
  · next hzero heq =>
    cases heq
    refine (and_iff_right ⟨hd, fun hhead => ?_⟩).symm
    cases hhead
    cases ds with
    | nil => rfl
    | cons digit digits => exact (hzero digit digits rfl).elim

/-- No digit stands behind the whole digits. -/
theorem noDigit_append {f e : List Char} {fraction : Option (List Char)} {exponent : Option Int}
    (hf : SpellsFraction f fraction) (he : SpellsExponent e exponent)
    (hr : NoDigit rest) : NoDigit (f ++ (e ++ rest)) := by
  cases hf with
  | some hd =>
    rintro c ⟨⟩
    rfl
  | none =>
    cases he with
    | none => exact hr
    | some he hs =>
      rintro c ⟨⟩
      rcases he with rfl | rfl <;> rfl

/-- A number is read behind its sign exactly if it is one by the grammar that has a
value and does not go on. -/
theorem readNumber_eq_ok_iff {x : Number} : readNumber negative cs = .ok (x, rest) ↔
    ∃ n front, n.negative = negative ∧ SpellsNumber (sign negative ++ front) n ∧
      cs = front ++ rest ∧ n.Stops rest ∧ n.number? = some x := by
  constructor
  · intro h
    rcases spanDigits_cases cs with ⟨tail, hspan⟩ | ⟨ds, tail, hd, hr, rfl⟩
    · rw [readNumber, hspan] at h
      cases tail <;> cases h
    obtain ⟨hwhole, h⟩ := (readNumber_append_eq_ok_iff hd hr).mp h
    obtain ⟨f, e, fraction, exponent, rest', rfl, hf, he, hstop⟩ := exists_spells_of_readWhole h hr
    obtain ⟨hx, rfl⟩ := (readWhole_eq_ok_iff hf he hstop).mp h
    refine ⟨⟨negative, ds, fraction, exponent⟩, ds ++ (f ++ e), rfl, .mk hwhole hf he, ?_,
      hstop, hx⟩
    simp only [List.append_assoc]
  · rintro ⟨n, front, rfl, hn, rfl, hstop, hx⟩
    generalize hcs : sign n.negative ++ front = cs at hn
    obtain ⟨hwhole, hf, he⟩ := hn
    obtain rfl := List.append_cancel_left hcs
    rw [List.append_assoc, List.append_assoc, readNumber_append_eq_ok_iff hwhole.1
      (noDigit_append hf he hstop.noDigit), readWhole_eq_ok_iff hf he hstop]
    exact ⟨hwhole, hx, rfl⟩

end Json
end SignedHooks
