/-
# The normal form of a header line

A line is cut at its first separator. Both separators are characters of ASCII, so a byte
that is one of them is nowhere a part of another character: the line may as well be cut at
the first such byte, and what stands before and behind it are the bytes of texts
(`HeaderLine.CutAt.bytes`). The name is the text before the separator and the value the
text behind it, both trimmed (`Settings.readHeader_of_cut`); a line is no header exactly if
it has no separator, or nothing but blank space before it
(`Settings.readHeader_eq_error_iff`).

So a name that is read is not empty and holds no separator, and neither the name nor the
value has blank space at its ends (`HeaderLine.Normal`). A line says a header of this form
exactly if it is the name, a separator and the value, with any blank space around the two
(`HeaderLine.Spelled`, `Settings.readHeader_eq_ok_iff_spelled`); the value may hold more
separators. Hence what is read comes back from every line that spells it
(`Settings.readHeader_normal`).

Key definitions: `HeaderLine.CutAt`, `HeaderLine.Nameless`, `HeaderLine.Normal`,
`HeaderLine.Spelled`.
Key theorems: `HeaderLine.CutAt.bytes`, `Settings.readHeader_of_cut`,
`Settings.readHeader_eq_error_iff`, `Settings.readHeader_eq_ok_iff_spelled`,
`Settings.readHeader_normal`.
-/
import SignedHooks.Proofs.HeaderLines
import SignedHooks.Proofs.Utf8

namespace SignedHooks
namespace HeaderLine

/-! ### The first separator -/

/-- `xs` cut at the first element of some sort: what stands before it and behind it. -/
structure CutAt {α : Type} (p : α → Bool) (xs before behind : List α) : Prop where
  /-- The element stands between them. -/
  split : ∃ x, p x = true ∧ xs = before ++ x :: behind
  /-- It is the first one. -/
  first : ∀ x ∈ before, p x = false

theorem exists_cutAt {α : Type} {p : α → Bool} {xs : List α} (h : ∃ x ∈ xs, p x = true) :
    ∃ before behind, CutAt p xs before behind := by
  obtain ⟨x, hx⟩ := Option.isSome_iff_exists.mp (List.find?_isSome.mpr h)
  obtain ⟨hp, before, behind, hxs, hbefore⟩ := List.find?_eq_some_iff_append.mp hx
  exact ⟨before, behind, ⟨x, hp, hxs⟩, fun y hy => by simpa using hbefore y hy⟩

/-- A line has no separator, or it is cut at the first one. -/
theorem no_separator_or_cut (line : String) : (∀ c ∈ line.toList, isSeparator c = false) ∨
    ∃ front rest : String, CutAt isSeparator line.toList front.toList rest.toList := by
  by_cases h : ∃ c ∈ line.toList, isSeparator c = true
  · obtain ⟨before, behind, hcut⟩ := exists_cutAt h
    exact .inr ⟨String.ofList before, String.ofList behind, by simpa using hcut⟩
  · exact .inl fun c hc => Bool.eq_false_iff.mpr fun hsep => h ⟨c, hc, hsep⟩

/-! ### The bytes of a line -/

/-- A byte that is a separator. -/
def isSeparatorByte (b : UInt8) : Bool :=
  b == 0x3A || b == 0x3D

theorem isSeparatorByte_iff (b : UInt8) :
    isSeparatorByte b = true ↔ b.toNat = 0x3A ∨ b.toNat = 0x3D := by
  have hcolon : (0x3A : UInt8).toNat = 0x3A := rfl
  have hequals : (0x3D : UInt8).toNat = 0x3D := rfl
  simp only [isSeparatorByte, Bool.or_eq_true, beq_iff_eq, ← UInt8.toNat_inj, hcolon, hequals]

theorem isSeparator_iff (c : Char) : isSeparator c = true ↔ c.toNat = 0x3A ∨ c.toNat = 0x3D := by
  have hcolon : ':'.toNat = 0x3A := rfl
  have hequals : '='.toNat = 0x3D := rfl
  simp only [isSeparator, Bool.or_eq_true, beq_iff_eq, ← Char.toNat_inj, hcolon, hequals]

/-- A byte of a character is a separator exactly if the character is. -/
theorem isSeparatorByte_of_mem_encodeChar {c : Char} {b : UInt8}
    (hb : b ∈ String.utf8EncodeChar c) : isSeparatorByte b = isSeparator c := by
  rw [Bool.eq_iff_iff, isSeparatorByte_iff, isSeparator_iff]
  by_cases hc : c.toNat ≤ 0x7f
  · rw [Utf8.encodeChar_one hc, List.mem_singleton] at hb
    rw [hb, Utf8.toNat_byte (by omega)]
  · have hhigh := Utf8.high_of_mem_encodeChar (Nat.lt_of_not_le hc) hb
    omega

theorem exists_separatorByte {c : Char} (h : isSeparator c = true) :
    ∃ b, isSeparatorByte b = true ∧ String.utf8EncodeChar c = [b] := by
  have hascii : c.toNat ≤ 0x7f := by
    have := (isSeparator_iff c).mp h
    omega
  have hone := Utf8.encodeChar_one hascii
  refine ⟨_, ?_, hone⟩
  rw [isSeparatorByte_of_mem_encodeChar (hone ▸ List.mem_singleton_self _), h]

/-- A line that is cut at its first separator is so cut between characters: what stands
before and behind the first byte that is a separator are the bytes of texts. -/
theorem CutAt.bytes {line front rest : String}
    (h : CutAt isSeparator line.toList front.toList rest.toList) :
    CutAt isSeparatorByte (Utf8.encode line) (Utf8.encode front) (Utf8.encode rest) := by
  obtain ⟨⟨c, hc, hline⟩, hfirst⟩ := h
  obtain ⟨b, hb, hone⟩ := exists_separatorByte hc
  refine ⟨⟨b, hb, ?_⟩, fun x hx => ?_⟩
  · calc Utf8.encode line = Utf8.encodeList (front.toList ++ c :: rest.toList) := by
          rw [Utf8.encode, hline]
      _ = Utf8.encode front ++ (String.utf8EncodeChar c ++ Utf8.encode rest) := by
          rw [Utf8.encodeList_append, Utf8.encodeList_cons, Utf8.encode, Utf8.encode]
      _ = Utf8.encode front ++ b :: Utf8.encode rest := by rw [hone, List.singleton_append]
  · obtain ⟨d, hd, hx⟩ := List.mem_flatMap.mp hx
    rw [isSeparatorByte_of_mem_encodeChar hx, hfirst d hd]

/-! ### Names and values -/

/-- The line says no name: it has no separator, or only blank space before the first one. -/
def Nameless (line : String) : Prop :=
  (∀ c ∈ line.toList, isSeparator c = false) ∨
    ∃ front rest, CutAt isSeparator line.toList front rest ∧ Text.Blank front

/-- A name and a value as they are read from a line. -/
structure Normal (name value : String) : Prop where
  /-- There is a name. -/
  named : name ≠ ""
  /-- No character of it is a separator. -/
  no_separator : ∀ c ∈ name.toList, isSeparator c = false
  /-- The name has no blank space at its ends. -/
  name_trimmed : Text.Trimmed name.toList
  /-- The value has no blank space at its ends. -/
  value_trimmed : Text.Trimmed value.toList

/-- The line is the name, a separator and the value, with any blank space around the name
and around the value. -/
inductive Spelled (name value : String) : String → Prop where
  /-- The separator is a colon. -/
  | colon {front rest : String} : Text.Padded name.toList front.toList →
      Text.Padded value.toList rest.toList → Spelled name value (front ++ ":" ++ rest)
  /-- The separator is an equals sign. -/
  | equals {front rest : String} : Text.Padded name.toList front.toList →
      Text.Padded value.toList rest.toList → Spelled name value (front ++ "=" ++ rest)

theorem isSeparator_of_isBlank {c : Char} (h : Text.isBlank c = true) : isSeparator c = false := by
  rw [Bool.eq_false_iff]
  intro hsep
  simp only [isSeparator, Bool.or_eq_true, beq_iff_eq] at hsep
  rcases hsep with rfl | rfl
  · exact absurd h (by decide)
  · exact absurd h (by decide)

/-- Blank space around a name adds no separator to it. -/
theorem no_separator_of_padded {name front : List Char} (h : Text.Padded name front)
    (hname : ∀ c ∈ name, isSeparator c = false) : ∀ c ∈ front, isSeparator c = false := by
  obtain ⟨before, after, hbefore, hafter, rfl⟩ := h
  intro c hc
  rcases List.mem_append.mp hc with hc | hc
  · rcases List.mem_append.mp hc with hc | hc
    · exact isSeparator_of_isBlank (hbefore c hc)
    · exact hname c hc
  · exact isSeparator_of_isBlank (hafter c hc)

/-- A line that spells a header is cut behind its name. -/
theorem Spelled.exists_cut {name value line : String} (h : Spelled name value line)
    (hname : ∀ c ∈ name.toList, isSeparator c = false) :
    ∃ front rest : String, CutAt isSeparator line.toList front.toList rest.toList ∧
      Text.Padded name.toList front.toList ∧ Text.Padded value.toList rest.toList := by
  cases h with
  | @colon front rest hfront hrest =>
    exact ⟨front, rest, ⟨⟨':', rfl, by simp⟩, no_separator_of_padded hfront hname⟩, hfront, hrest⟩
  | @equals front rest hfront hrest =>
    exact ⟨front, rest, ⟨⟨'=', rfl, by simp⟩, no_separator_of_padded hfront hname⟩, hfront, hrest⟩

/-- A line that is cut spells what stands before and behind the separator, trimmed. -/
theorem CutAt.spelled {line front rest : String}
    (h : CutAt isSeparator line.toList front.toList rest.toList) :
    Spelled (Text.trim front) (Text.trim rest) line := by
  obtain ⟨⟨c, hc, hline⟩, -⟩ := h
  have hfront : Text.Padded (Text.trim front).toList front.toList := (Text.trim_eq_iff.mp rfl).2
  have hrest : Text.Padded (Text.trim rest).toList rest.toList := (Text.trim_eq_iff.mp rfl).2
  simp only [isSeparator, Bool.or_eq_true, beq_iff_eq] at hc
  rcases hc with rfl | rfl
  · have heq : line = front ++ ":" ++ rest := by
      rw [← String.toList_inj, hline]
      simp
    rw [heq]
    exact .colon hfront hrest
  · have heq : line = front ++ "=" ++ rest := by
      rw [← String.toList_inj, hline]
      simp
    rw [heq]
    exact .equals hfront hrest

/-- The line that is printed for a header spells it. -/
theorem spelled_write (name value : String) : Spelled name value (write name value) := by
  have hline : write name value = name ++ ":" ++ (" " ++ value ++ "\n") := by
    rw [← String.toList_inj, toList_write]
    simp
  have hblank : ∀ c : Char, Text.isBlank c = true → Text.Blank [c] := by
    intro c hc
    simpa [Text.Blank] using hc
  rw [hline]
  refine .colon ⟨[], [], by simp [Text.Blank], by simp [Text.Blank], by simp⟩ ?_
  exact ⟨[' '], ['\n'], hblank ' ' (by decide), hblank '\n' (by decide), by simp⟩

end HeaderLine

namespace Settings

open HeaderLine

variable {line front rest name value : String}

/-! ### What a line says -/

theorem readHeader_of_no_separator (h : ∀ c ∈ line.toList, isSeparator c = false) :
    readHeader line = .error (.invalidHeader line) := by
  rw [readHeader, HeaderLine.read, read_eq_none_of_no_separator h]
  rfl

/-- A line says the text before its first separator and the text behind it, trimmed, unless
there is no name. -/
theorem readHeader_of_cut (h : CutAt isSeparator line.toList front.toList rest.toList) :
    readHeader line = if Text.trim front = "" then .error (.invalidHeader line)
      else .ok (Text.trim front, Text.trim rest) := by
  obtain ⟨⟨c, hc, hline⟩, hfirst⟩ := h
  have hempty : Text.trim front = "" ↔ (Text.trimList front.toList).isEmpty = true := by
    rw [← String.toList_inj, Text.toList_trim, List.isEmpty_iff]
    rfl
  rw [readHeader, HeaderLine.read, hline, readList_append hfirst hc]
  by_cases hfront : Text.trim front = ""
  · rw [if_pos hfront, if_pos (hempty.mp hfront)]
    rfl
  · rw [if_neg hfront, if_neg fun hnil => hfront (hempty.mpr hnil)]
    rfl

theorem trim_eq_empty_iff {s : String} : Text.trim s = "" ↔ Text.Blank s.toList := by
  rw [← Text.trimList_eq_nil_iff, ← Text.toList_trim, String.toList_eq_nil_iff]

theorem readHeader_of_nameless (h : Nameless line) :
    readHeader line = .error (.invalidHeader line) := by
  rcases h with hnone | ⟨front, rest, hcut, hblank⟩
  · exact readHeader_of_no_separator hnone
  · have htexts : CutAt isSeparator line.toList (String.ofList front).toList
        (String.ofList rest).toList := by simpa using hcut
    have hempty : Text.trim (String.ofList front) = "" :=
      trim_eq_empty_iff.mpr (by simpa using hblank)
    rw [readHeader_of_cut htexts, if_pos hempty]

/-- A line is no header exactly if it says no name, and the failure tells the line. -/
theorem readHeader_eq_error_iff {failure : Failure} :
    readHeader line = .error failure ↔ failure = .invalidHeader line ∧ Nameless line := by
  constructor
  · intro h
    rcases no_separator_or_cut line with hnone | ⟨front, rest, hcut⟩
    · rw [readHeader_of_no_separator hnone] at h
      exact ⟨(Except.error.inj h).symm, .inl hnone⟩
    · rw [readHeader_of_cut hcut] at h
      by_cases hfront : Text.trim front = ""
      · rw [if_pos hfront] at h
        exact ⟨(Except.error.inj h).symm, .inr ⟨_, _, hcut, trim_eq_empty_iff.mp hfront⟩⟩
      · rw [if_neg hfront] at h
        cases h
  · intro h
    rw [h.1]
    exact readHeader_of_nameless h.2

/-- A header that is read comes from a line that is cut at its first separator. -/
theorem exists_cut_of_readHeader (h : readHeader line = .ok (name, value)) :
    ∃ front rest : String, CutAt isSeparator line.toList front.toList rest.toList ∧
      name = Text.trim front ∧ value = Text.trim rest ∧ name ≠ "" := by
  rcases no_separator_or_cut line with hnone | ⟨front, rest, hcut⟩
  · rw [readHeader_of_no_separator hnone] at h
    cases h
  · rw [readHeader_of_cut hcut] at h
    by_cases hfront : Text.trim front = ""
    · rw [if_pos hfront] at h
      cases h
    · rw [if_neg hfront] at h
      cases h
      exact ⟨front, rest, hcut, rfl, rfl, hfront⟩

/-- What is read is in normal form. -/
theorem normal_of_readHeader (h : readHeader line = .ok (name, value)) : Normal name value := by
  obtain ⟨front, rest, hcut, rfl, rfl, hnamed⟩ := exists_cut_of_readHeader h
  refine ⟨hnamed, fun c hc => ?_, (Text.trim_eq_iff.mp rfl).1, (Text.trim_eq_iff.mp rfl).1⟩
  apply hcut.first
  rw [Text.toList_trim] at hc
  exact Text.mem_of_mem_trimList hc

/-- Every line that spells a header of normal form says it. -/
theorem readHeader_of_spelled (hnormal : Normal name value) (h : Spelled name value line) :
    readHeader line = .ok (name, value) := by
  obtain ⟨front, rest, hcut, hfront, hrest⟩ := h.exists_cut hnormal.no_separator
  have hname : Text.trim front = name := Text.trim_eq_iff.mpr ⟨hnormal.name_trimmed, hfront⟩
  have hvalue : Text.trim rest = value := Text.trim_eq_iff.mpr ⟨hnormal.value_trimmed, hrest⟩
  rw [readHeader_of_cut hcut, hname, hvalue, if_neg hnormal.named]

/-- A line says a header exactly if the header is in normal form and the line spells it. -/
theorem readHeader_eq_ok_iff_spelled :
    readHeader line = .ok (name, value) ↔ Normal name value ∧ Spelled name value line := by
  constructor
  · intro h
    obtain ⟨front, rest, hcut, hname, hvalue, -⟩ := exists_cut_of_readHeader h
    refine ⟨normal_of_readHeader h, ?_⟩
    rw [hname, hvalue]
    exact hcut.spelled
  · intro h
    exact readHeader_of_spelled h.1 h.2

/-- **The normal form of a header line.** A line is no header exactly if it says no name, and
the failure then tells the line. If there is a separator in it, what stands before and
behind the first byte that is one are the bytes of texts, and these are what is trimmed. What
is read is in normal form, is spelled by the line, and is read from every line that spells
it. -/
theorem readHeader_normal (line : String) :
    (∀ failure, readHeader line = .error failure ↔
      failure = .invalidHeader line ∧ Nameless line) ∧
    ((∃ c ∈ line.toList, isSeparator c = true) → ∃ front rest,
      CutAt isSeparatorByte (Utf8.encode line) (Utf8.encode front) (Utf8.encode rest) ∧
      readHeader line = if Text.trim front = "" then .error (.invalidHeader line)
        else .ok (Text.trim front, Text.trim rest)) ∧
    ∀ name value, readHeader line = .ok (name, value) →
      Normal name value ∧ Spelled name value line ∧
      ∀ again, Spelled name value again → readHeader again = .ok (name, value) := by
  refine ⟨fun failure => readHeader_eq_error_iff, fun hsep => ?_, fun name value h => ?_⟩
  · rcases no_separator_or_cut line with hnone | ⟨front, rest, hcut⟩
    · obtain ⟨c, hc, hsep⟩ := hsep
      rw [hnone c hc] at hsep
      cases hsep
    · exact ⟨front, rest, hcut.bytes, readHeader_of_cut hcut⟩
  · obtain ⟨hnormal, hspelled⟩ := readHeader_eq_ok_iff_spelled.mp h
    exact ⟨hnormal, hspelled, fun again hagain => readHeader_of_spelled hnormal hagain⟩

/-- A line with an equals sign for its separator, and more of both separators in the value. -/
def markedLine : String := "\u3000X-UseSend-Signature\u00a0=\tv1=0a:é \n"

/-- It is cut between characters, and what it says is also read from the line that is printed
for it. -/
theorem readHeader_markedLine :
    (∃ c ∈ markedLine.toList, isSeparator c = true) ∧
    (∃ front rest,
      CutAt isSeparatorByte (Utf8.encode markedLine) (Utf8.encode front) (Utf8.encode rest)) ∧
    readHeader markedLine = .ok ("X-UseSend-Signature", "v1=0a:é") ∧
    Normal "X-UseSend-Signature" "v1=0a:é" ∧
    readHeader "X-UseSend-Signature: v1=0a:é\n" = .ok ("X-UseSend-Signature", "v1=0a:é") := by
  have hsep : ∃ c ∈ markedLine.toList, isSeparator c = true := ⟨'=', by decide, rfl⟩
  have hread : readHeader markedLine = .ok ("X-UseSend-Signature", "v1=0a:é") := by rfl
  obtain ⟨-, hbytes, hsays⟩ := readHeader_normal markedLine
  obtain ⟨front, rest, hcut, -⟩ := hbytes hsep
  obtain ⟨hnormal, -, hagain⟩ := hsays _ _ hread
  exact ⟨hsep, ⟨front, rest, hcut⟩, hread, hnormal, hagain _ (spelled_write _ _)⟩

end Settings
end SignedHooks
