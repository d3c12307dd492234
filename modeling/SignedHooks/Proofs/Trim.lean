/-
# What trimming leaves

Trimming drops blank characters at the two ends of a text and nothing else
(`Text.trimList_cons_append_cons`), so a text without blank characters stays
as it is (`Text.trimList_of_no_blank`), and blank characters more around a text
make no difference (`Text.trimList_padded`). What is left of a text is the only
one that has no blank character at its ends and from which the text comes by
putting blank characters around it (`Text.trimList_eq_iff`).

Key definitions: `Text.Blank`, `Text.Trimmed`, `Text.Padded`.
Key theorems: `Text.trimList_cons_append_cons`, `Text.trimList_padded`,
`Text.trimList_eq_iff`.
-/
import Mathlib.Data.List.DropRight
import SignedHooks.Text.Blank

namespace SignedHooks
namespace Text

/-- There are only blank characters. -/
def Blank (cs : List Char) : Prop :=
  ∀ c ∈ cs, isBlank c = true

/-- There is no blank character at the two ends. -/
structure Trimmed (cs : List Char) : Prop where
  /-- The first character is not blank. -/
  front : ∀ c ∈ cs.head?, isBlank c = false
  /-- The last character is not blank. -/
  back : ∀ c ∈ cs.getLast?, isBlank c = false

/-- `cs` is `core` with blank characters around it, or none. -/
def Padded (core cs : List Char) : Prop :=
  ∃ before after, Blank before ∧ Blank after ∧ cs = before ++ core ++ after

theorem trimList_eq (cs : List Char) :
    trimList cs = (cs.dropWhile isBlank).rdropWhile isBlank := rfl

/-- Nothing is dropped in front of the last character that is not blank. -/
theorem rdropWhile_append_cons {d : Char} (hd : isBlank d = false) (xs rest : List Char) :
    (xs ++ d :: rest).rdropWhile isBlank = xs ++ d :: rest.rdropWhile isBlank := by
  induction rest using List.reverseRecOn with
  | nil =>
    rw [List.rdropWhile_nil]
    exact List.rdropWhile_concat_neg _ xs d (by simp [hd])
  | append_singleton rest e ih =>
    rw [← List.cons_append, ← List.append_assoc]
    by_cases he : isBlank e = true
    · rw [List.rdropWhile_concat_pos _ _ e he, List.rdropWhile_concat_pos _ _ e he]
      exact ih
    · rw [List.rdropWhile_concat_neg _ _ e he, List.rdropWhile_concat_neg _ _ e he]
      simp

/-- From a character that is not blank to another nothing is trimmed. -/
theorem trimList_cons_append_cons {c d : Char} (hc : isBlank c = false) (hd : isBlank d = false)
    (xs rest : List Char) :
    trimList (c :: xs ++ d :: rest) = c :: xs ++ d :: rest.rdropWhile isBlank := by
  have hfront : (c :: xs ++ d :: rest).dropWhile isBlank = c :: xs ++ d :: rest := by
    rw [List.cons_append, List.dropWhile_cons_of_neg (by simp [hc])]
  rw [trimList_eq, hfront, rdropWhile_append_cons hd]

/-! ### Texts with nothing to trim -/

theorem Trimmed.trimList_eq_self {cs : List Char} (h : Trimmed cs) : trimList cs = cs := by
  have hfront : cs.dropWhile isBlank = cs := by
    cases cs with
    | nil => rfl
    | cons c cs => exact List.dropWhile_cons_of_neg (by simp [h.front c rfl])
  rw [trimList_eq, hfront, List.rdropWhile_eq_self_iff]
  intro hne
  simp [h.back _ (List.getLast?_eq_some_getLast hne)]

theorem trimmed_of_no_blank {cs : List Char} (h : ∀ c ∈ cs, isBlank c = false) : Trimmed cs where
  front c hc := h c (List.mem_of_mem_head? hc)
  back c hc := h c (List.mem_of_mem_getLast? hc)

/-- Without blank characters there is nothing to trim. -/
theorem trimList_of_no_blank {cs : List Char} (h : ∀ c ∈ cs, isBlank c = false) :
    trimList cs = cs :=
  (trimmed_of_no_blank h).trimList_eq_self

/-! ### Blank characters around a text -/

theorem trimList_cons_blank {c : Char} (h : isBlank c = true) (cs : List Char) :
    trimList (c :: cs) = trimList cs := by
  rw [trimList_eq, trimList_eq, List.dropWhile_cons_of_pos h]

theorem trimList_concat_blank {c : Char} (h : isBlank c = true) (cs : List Char) :
    trimList (cs ++ [c]) = trimList cs := by
  rw [trimList_eq, trimList_eq, List.dropWhile_append]
  by_cases hall : (cs.dropWhile isBlank).isEmpty = true
  · rw [if_pos hall, List.dropWhile_cons_of_pos h, List.isEmpty_iff.mp hall]
    rfl
  · rw [if_neg hall, List.rdropWhile_concat_pos _ _ c h]

/-- Blank characters in front make no difference. -/
theorem trimList_blank_append {before : List Char} (h : Blank before) (cs : List Char) :
    trimList (before ++ cs) = trimList cs := by
  induction before with
  | nil => rfl
  | cons c before ih =>
    have hrest : Blank before := fun d hd => h d (List.mem_cons_of_mem c hd)
    rw [List.cons_append, trimList_cons_blank (h c List.mem_cons_self), ih hrest]

/-- Blank characters behind make no difference. -/
theorem trimList_append_blank {after : List Char} (h : Blank after) (cs : List Char) :
    trimList (cs ++ after) = trimList cs := by
  induction after generalizing cs with
  | nil => rw [List.append_nil]
  | cons c after ih =>
    have hrest : Blank after := fun d hd => h d (List.mem_cons_of_mem c hd)
    rw [List.append_cons, ih hrest, trimList_concat_blank (h c List.mem_cons_self)]

/-- Blank characters around a text make no difference. -/
theorem trimList_padded {core cs : List Char} (h : Padded core cs) : trimList cs = trimList core := by
  obtain ⟨before, after, hbefore, hafter, rfl⟩ := h
  rw [trimList_append_blank hafter, trimList_blank_append hbefore]

/-! ### What is left -/

/-- What is left has no blank character at its ends. -/
theorem trimmed_trimList (cs : List Char) : Trimmed (trimList cs) where
  front c hc := by
    obtain ⟨dropped, hdropped⟩ := List.rdropWhile_prefix isBlank (cs.dropWhile isBlank)
    have hhead : (cs.dropWhile isBlank).head? = some c := by
      rw [← hdropped, List.head?_append]
      rw [trimList_eq, Option.mem_def] at hc
      rw [hc, Option.some_or]
    have hnot := List.head?_dropWhile_not isBlank cs
    rwa [hhead] at hnot
  back c hc := by
    obtain ⟨hne, rfl⟩ := List.mem_getLast?_eq_getLast hc
    have hnot := List.rdropWhile_last_not isBlank (cs.dropWhile isBlank) hne
    exact Bool.eq_false_iff.mpr hnot

/-- What is dropped is blank. -/
theorem padded_trimList (cs : List Char) : Padded (trimList cs) cs := by
  refine ⟨cs.takeWhile isBlank, (cs.dropWhile isBlank).rtakeWhile isBlank,
    fun _ hc => List.mem_takeWhile_imp hc, fun _ hc => List.mem_rtakeWhile_imp hc, ?_⟩
  calc cs = cs.takeWhile isBlank ++ cs.dropWhile isBlank := List.takeWhile_append_dropWhile.symm
    _ = cs.takeWhile isBlank ++ (trimList cs ++ (cs.dropWhile isBlank).rtakeWhile isBlank) := by
        rw [trimList_eq, List.rdropWhile_append_rtakeWhile]
    _ = cs.takeWhile isBlank ++ trimList cs ++ (cs.dropWhile isBlank).rtakeWhile isBlank :=
        (List.append_assoc ..).symm

/-- What is left of a text is what it is a padded form of, and what has nothing to trim. -/
theorem trimList_eq_iff {core cs : List Char} :
    trimList cs = core ↔ Trimmed core ∧ Padded core cs := by
  constructor
  · rintro rfl
    exact ⟨trimmed_trimList cs, padded_trimList cs⟩
  · rintro ⟨htrimmed, hpadded⟩
    rw [trimList_padded hpadded, htrimmed.trimList_eq_self]

theorem mem_of_mem_trimList {c : Char} {cs : List Char} (h : c ∈ trimList cs) : c ∈ cs := by
  obtain ⟨before, after, -, -, hcs⟩ := padded_trimList cs
  rw [hcs]
  exact List.mem_append_left after (List.mem_append_right before h)

theorem trim_eq_iff {core s : String} :
    trim s = core ↔ Trimmed core.toList ∧ Padded core.toList s.toList := by
  rw [← trimList_eq_iff, ← toList_trim, String.toList_inj]

/-- Nothing is left exactly of the texts of blank characters. -/
theorem trimList_eq_nil_iff {cs : List Char} : trimList cs = [] ↔ Blank cs := by
  constructor
  · intro h
    obtain ⟨before, after, hbefore, hafter, hcs⟩ := (trimList_eq_iff.mp h).2
    intro c hc
    rw [hcs, List.append_nil] at hc
    exact (List.mem_append.mp hc).elim (hbefore c) (hafter c)
  · intro h
    have hnil := trimList_append_blank h []
    rwa [List.nil_append] at hnil

end Text
end SignedHooks
