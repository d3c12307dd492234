/-
# How many lines signed headers print

The headers of a signed body are printed each with a line feed behind it, and their values are
printed as they are. A text that ends with a line feed falls into lines in one way only
(`Text.Ended.unique`), one for each line feed (`Text.exists_ended`). So what is printed are the
lines of each header (`SignedHeaders.ended_lines`), one for the header and one more for each
line feed of its value (`SignedHeaders.length_printed`), and the lines are the headers, each
read from its own, exactly if no value has a line feed (`SignedHeaders.forall₂_printed_iff`).
Of what a signer makes only the type of the event and the identifier of the delivery can have
one (`SignedHeaders.lineFeed_iff_label`).

Key definitions: `Text.Ended`, `HeaderLine.printed`.
Key theorems: `Text.Ended.unique`, `Text.exists_ended`, `SignedHeaders.length_printed`,
`SignedHeaders.forall₂_printed_iff`, `SignedHeaders.lineFeed_iff_label`,
`SignedHeaders.lines_read_iff`.
-/
import SignedHooks.Proofs.PrintedHeaders

namespace SignedHooks

/-! ### Lines with their ends -/

namespace Text

/-- The text consists of these lines, each ended by a line feed. -/
inductive Ended : List Char → List String → Prop where
  /-- No line. -/
  | nil : Ended [] []
  /-- A line, and others behind it. -/
  | line {l : String} {rest : List Char} {ls : List String} :
      '\n' ∉ l.toList → Ended rest ls → Ended (l.toList ++ '\n' :: rest) (l :: ls)

namespace Ended

variable {text rest : List Char} {ls ls' : List String}

/-- The characters of a line. -/
theorem ofList {l : List Char} (hl : '\n' ∉ l) (h : Ended rest ls) :
    Ended (l ++ '\n' :: rest) (String.ofList l :: ls) := by
  have hline : Ended ((String.ofList l).toList ++ '\n' :: rest) (String.ofList l :: ls) :=
    .line (by rwa [String.toList_ofList]) h
  rwa [String.toList_ofList] at hline

theorem splitLines_eq (h : Ended text ls) : splitLines text = ls.map String.toList := by
  induction h with
  | nil => rfl
  | line hl _ ih =>
    rw [splitLines_append, splitLines_single hl, ih, List.map_cons, List.singleton_append]

/-- The lines are the pieces up to each line feed. -/
theorem map_splitLines (h : Ended text ls) : (splitLines text).map String.ofList = ls := by
  have hsame : String.ofList ∘ String.toList = id := funext fun _ => String.ofList_toList
  rw [h.splitLines_eq, List.map_map, hsame, List.map_id]

/-- There is no other way to see a text as lines. -/
theorem unique (h : Ended text ls) (h' : Ended text ls') : ls' = ls := by
  rw [← h.map_splitLines, ← h'.map_splitLines]

theorem append (h : Ended text ls) (h' : Ended rest ls') : Ended (text ++ rest) (ls ++ ls') := by
  induction h with
  | nil => exact h'
  | line hl _ ih =>
    rw [List.append_assoc, List.cons_append, List.cons_append]
    exact .line hl ih

/-- Texts one after another have their lines one after another. -/
theorem join {α : Type} {write : α → String} {printed : α → List String} : ∀ {items : List α},
    (∀ a ∈ items, Ended (write a).toList (printed a)) →
      Ended (String.join (items.map write)).toList (items.flatMap printed)
  | [], _ => .nil
  | a :: items, h => by
    obtain ⟨ha, hitems⟩ := List.forall_mem_cons.mp h
    rw [List.map_cons, String.join_cons, String.toList_append, List.flatMap_cons]
    exact ha.append (join hitems)

end Ended

/-- A text that ends with a line feed has a line for it and one for each that stands before. -/
theorem exists_ended : ∀ front : List Char,
    ∃ first more, Ended (front ++ ['\n']) (first :: more) ∧ more.length = front.count '\n'
  | [] => ⟨"", [], Ended.ofList List.not_mem_nil .nil, rfl⟩
  | c :: front => by
    obtain ⟨first, more, hended, hlength⟩ := exists_ended front
    by_cases hc : c = '\n'
    · subst hc
      refine ⟨"", first :: more, Ended.ofList List.not_mem_nil hended, ?_⟩
      rw [List.length_cons, hlength, List.count_cons_self]
    · generalize htext : front ++ ['\n'] = text at hended
      cases hended with
      | line hl hmore =>
        refine ⟨String.ofList (c :: first.toList), more, ?_, ?_⟩
        · rw [List.cons_append, htext, ← List.cons_append]
          refine Ended.ofList ?_ hmore
          rw [List.mem_cons, not_or]
          exact ⟨Ne.symm hc, hl⟩
        · rw [hlength, List.count_cons_of_ne hc]

end Text

/-! ### The lines of headers -/

namespace HeaderLine

/-- The lines that are printed of a header. -/
def printed (header : String × String) : List String :=
  (Text.splitLines (write header.1 header.2).toList).map String.ofList

variable {header : String × String}

/-- A header has a line, and one more for each line feed of its value. -/
theorem ended_printed (hname : Nameable header.1) :
    Text.Ended (write header.1 header.2).toList (printed header) ∧
      (printed header).length = header.2.toList.count '\n' + 1 := by
  obtain ⟨first, more, hended, hlength⟩ :=
    Text.exists_ended (header.1.toList ++ ':' :: ' ' :: header.2.toList)
  rw [← toList_write] at hended
  have hprinted : printed header = first :: more := hended.map_splitLines
  rw [hprinted]
  refine ⟨hended, ?_⟩
  rw [List.length_cons, hlength, List.count_append, List.count_eq_zero.mpr hname.no_end,
    List.count_cons_of_ne (by decide), List.count_cons_of_ne (by decide), Nat.zero_add]

/-- Without a line feed in its value it has one line. -/
theorem printed_eq (hname : Nameable header.1) (hvalue : '\n' ∉ header.2.toList) :
    printed header = [header.1 ++ ": " ++ header.2] := by
  have hend : '\n' ∉ (header.1 ++ ": " ++ header.2).toList := by
    rw [toList_line]
    simp [hname.no_end, hvalue]
  rw [printed, toList_write, ← toList_line, Text.splitLines_single hend, List.map_singleton,
    String.ofList_toList]

end HeaderLine

namespace SignedHeaders

/-- What is printed of signed headers are the lines of each, one after another. -/
theorem ended_lines (h : SignedHeaders) :
    Text.Ended h.lines.toList (h.pairs.flatMap HeaderLine.printed) :=
  Text.Ended.join fun _ hp => (HeaderLine.ended_printed (nameable_of_mem_pairs hp)).1

/-- These are a line for each header, and one more for each line feed of a value. -/
theorem length_printed (h : SignedHeaders) : (h.pairs.flatMap HeaderLine.printed).length =
    h.pairs.length + (h.pairs.map fun p => p.2.toList.count '\n').sum := by
  have hlines : ∀ p ∈ h.pairs, (HeaderLine.printed p).length = p.2.toList.count '\n' + 1 :=
    fun _ hp => (HeaderLine.ended_printed (nameable_of_mem_pairs hp)).2
  have hones : (h.pairs.map fun _ => 1).sum = h.pairs.length := by simp
  rw [List.length_flatMap, List.map_congr_left hlines, List.sum_map_add, hones, Nat.add_comm]

/-- The lines are the headers, each read from its own, exactly if no value has a line feed. -/
theorem forall₂_printed_iff (h : SignedHeaders) :
    List.Forall₂ (fun line p => HeaderLine.read line = some (p.1, Text.trim p.2))
        (h.pairs.flatMap HeaderLine.printed) h.pairs ↔ ∀ p ∈ h.pairs, '\n' ∉ p.2.toList := by
  constructor
  · -- as many lines as headers leave no room for a line feed
    intro hread
    have hlength := h.length_printed
    rw [hread.length_eq] at hlength
    have hnone : (h.pairs.map fun p => p.2.toList.count '\n').sum = 0 := by omega
    intro p hp
    exact List.count_eq_zero.mp (List.sum_eq_zero_iff.mp hnone _ (List.mem_map_of_mem hp))
  · intro hvalues
    have hlines : ∀ p ∈ h.pairs, HeaderLine.printed p = [p.1 ++ ": " ++ p.2] :=
      fun p hp => HeaderLine.printed_eq (nameable_of_mem_pairs hp) (hvalues p hp)
    rw [List.flatMap_congr hlines, ← List.map_eq_flatMap, List.forall₂_map_left_iff,
      List.forall₂_same]
    exact fun p hp => HeaderLine.read_line (nameable_of_mem_pairs hp) p.2

theorem lineFeed_not_mem_signature (s : Signer) (millis : Int) (body : String) :
    '\n' ∉ (s.signAt millis body).signature.toList := fun hmem =>
  absurd (Signature.isBlank_of_mem_compute hmem) (by decide)

theorem lineFeed_not_mem_timestamp (s : Signer) (millis : Int) (body : String) :
    '\n' ∉ (s.signAt millis body).timestamp.toList := fun hmem =>
  absurd (Timestamp.isBlank_of_mem_write hmem) (by decide)

/-- Of what a signer makes only the labels can have a line feed. -/
theorem lineFeed_iff_label (s : Signer) (millis : Int) (body : String)
    (event call : Option String) :
    (∃ p ∈ ((s.signAt millis body).label event call).pairs, '\n' ∈ p.2.toList) ↔
      ∃ value, (event = some value ∨ call = some value) ∧ '\n' ∈ value.toList := by
  rw [pairs_label]
  constructor
  · rintro ⟨p, hp, hend⟩
    rcases List.mem_cons.mp hp with rfl | hp
    · exact absurd hend (lineFeed_not_mem_signature s millis body)
    rcases List.mem_cons.mp hp with rfl | hp
    · exact absurd hend (lineFeed_not_mem_timestamp s millis body)
    · exact ⟨p.2, mem_labelPairs hp, hend⟩
  · rintro ⟨value, rfl | rfl, hend⟩
    · exact ⟨(Header.event, value), by simp [labelPairs], hend⟩
    · exact ⟨(Header.call, value), by simp [labelPairs], hend⟩

/-- **Printed lines.** Whatever the headers hold, what is printed of them consists of lines in
just one way: there is a line for each header, and one more for each line feed of a value. The
lines are the headers, each read from its own line with its value trimmed, exactly if no value
has a line feed. -/
theorem lines_read_iff (h : SignedHeaders) : ∃ ls, Text.Ended h.lines.toList ls ∧
    (∀ ls', Text.Ended h.lines.toList ls' → ls' = ls) ∧
    ls.length = h.pairs.length + (h.pairs.map fun p => p.2.toList.count '\n').sum ∧
    (List.Forall₂ (fun line p => HeaderLine.read line = some (p.1, Text.trim p.2)) ls h.pairs ↔
      ∀ p ∈ h.pairs, '\n' ∉ p.2.toList) :=
  ⟨_, h.ended_lines, fun _ => h.ended_lines.unique, h.length_printed, h.forall₂_printed_iff⟩

/-- Three headers, the last of which ends with a line feed, are not printed as three lines. -/
theorem lines_endedCall :
    let h := ((Signer.mk "whsec_test").signAt 42 "\x7b\x7d").label none (some "call_1\n")
    ¬ ∃ ls, Text.Ended h.lines.toList ls ∧ ls.length = h.pairs.length := by
  rintro h ⟨ls, hended, hlength⟩
  have hlines := h.length_printed
  rw [← h.ended_lines.unique hended] at hlines
  have hcall : (h.pairs.map fun p => p.2.toList.count '\n').sum ≠ 0 := by
    rw [pairs_label]
    simp [labelPairs]
  omega

end SignedHeaders
end SignedHooks
