/-
# Decimal digits

The number of a digit, and of a run of digits.

Key definitions: `Decimal.digitValue`, `Decimal.ofDigits`, `Decimal.digitsOf`.
Key theorems: `Decimal.ofDigits_append`, `Decimal.digitValue_lt`.
-/

namespace SignedHooks
namespace Decimal

/-- The number of a decimal digit. -/
def digitValue (c : Char) : Nat :=
  c.toNat - 48

/-- The number that a run of digits spells, most significant digit first. -/
def ofDigits (cs : List Char) : Nat :=
  cs.foldl (fun n c => 10 * n + digitValue c) 0

/-- The digits of a number. -/
def digitsOf (n : Nat) : List Char :=
  Nat.toDigits 10 n

theorem digitValue_lt {c : Char} (h : c.isDigit = true) : digitValue c < 10 := by
  simp only [Char.isDigit, Bool.and_eq_true, decide_eq_true_eq, ge_iff_le] at h
  have h9 : c.toNat ≤ 57 := h.2
  simp only [digitValue]
  omega

@[simp] theorem ofDigits_nil : ofDigits [] = 0 := rfl

/-- A digit more makes a number ten times as large, plus the digit. -/
theorem ofDigits_append (cs : List Char) (c : Char) :
    ofDigits (cs ++ [c]) = 10 * ofDigits cs + digitValue c := by
  simp [ofDigits]

end Decimal
end SignedHooks
