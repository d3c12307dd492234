/-
# Lines of headers

A text that is put together from lines with their ends falls into the same lines
(`Text.lines_join`). A header that is written on a line is read from it again, its value
without the blank space at its two ends, if its name is one that a line can hold
(`HeaderLine.Nameable`, `HeaderLine.read_written`).

Several lines are headers exactly if each of them is one (`Settings.readHeaders_eq_ok_iff`),
and otherwise the first that is none is the failure
(`Settings.readHeaders_eq_error_iff`).

Key definitions: `Text.splitLines`, `Text.lines`, `HeaderLine.Nameable`.
Key theorems: `Text.lines_join`, `HeaderLine.read_written`,
`Settings.readHeaders_eq_ok_iff`, `Settings.readHeaders_eq_error_iff`.
-/
import SignedHooks.Proofs.JsonParts
import SignedHooks.Proofs.Trim
import SignedHooks.Settings

namespace SignedHooks

/-! ### The lines of a text -/

namespace Text

/-- The pieces of a text, each up to a line feed, and what stands behind the last one. -/
def splitLines : List Char → List (List Char)
  | [] => []
  | c :: rest =>
    if c = '\n' then [] :: splitLines rest
    else
      match splitLines rest with
      | [] => [[c]]
      | line :: more => (c :: line) :: more

/-- A line without the carriage return at its end. -/
def dropReturn (line : List Char) : List Char :=
  if line.getLast? = some '\r' then line.dropLast else line

/-- The lines of a text, without their ends. -/
def lines (text : String) : List String :=
  (splitLines text.toList).map fun line => String.ofList (dropReturn line)

theorem splitLines_ne_nil (c : Char) (rest : List Char) : splitLines (c :: rest) ≠ [] := by
  unfold splitLines
  split_ifs
  · exact List.cons_ne_nil _ _
  · split <;> exact List.cons_ne_nil _ _

/-- Behind a line feed the lines begin anew. -/
theorem splitLines_append (front rest : List Char) :
    splitLines (front ++ '\n' :: rest) = splitLines (front ++ ['\n']) ++ splitLines rest := by
  induction front with
  | nil => rfl
  | cons c front ih =>
    rw [List.cons_append, List.cons_append, splitLines, splitLines, ih]
    split_ifs with hc
    · rfl
    · obtain ⟨line, more, hne⟩ : ∃ line more, splitLines (front ++ ['\n']) = line :: more := by
        cases front with
        | nil => exact ⟨[], [], rfl⟩
        | cons d front => exact List.exists_cons_of_ne_nil (splitLines_ne_nil d _)
      rw [hne]
      rfl

/-- A text without line feeds, and then a line feed, is one line. -/
theorem splitLines_single : ∀ {line : List Char}, '\n' ∉ line → splitLines (line ++ ['\n']) = [line]
  | [], _ => rfl
  | c :: line, h => by
    have hc : c ≠ '\n' := fun heq => h (heq ▸ List.mem_cons_self)
    have hline : '\n' ∉ line := fun hmem => h (List.mem_cons_of_mem c hmem)
    rw [List.cons_append, splitLines, if_neg hc, splitLines_single hline]

/-- Texts that end with a line feed have their lines one after another. -/
theorem lines_join : ∀ {texts : List String}, (∀ t ∈ texts, ∃ front, t = front ++ "\n") →
    lines (String.join texts) = texts.flatMap lines
  | [], _ => rfl
  | t :: texts, h => by
    obtain ⟨⟨front, rfl⟩, hrest⟩ := List.forall_mem_cons.mp h
    have hend : (front ++ "\n").toList = front.toList ++ ['\n'] := String.toList_append
    have hsplit := splitLines_append front.toList (String.join texts).toList
    rw [List.flatMap_cons, ← lines_join hrest, lines, lines, lines, ← List.map_append,
      String.join_cons, String.toList_append, hend, List.append_assoc, List.singleton_append,
      hsplit]

theorem dropReturn_append (front : List Char) {line : List Char} (h : line ≠ []) :
    dropReturn (front ++ line) = front ++ dropReturn line := by
  unfold dropReturn
  rw [List.getLast?_append_of_ne_nil front h, List.dropLast_append_of_ne_nil h]
  split_ifs <;> rfl

/-- A carriage return at the end is trimmed anyway. -/
theorem trimList_dropReturn (line : List Char) : trimList (dropReturn line) = trimList line := by
  unfold dropReturn
  split_ifs with h
  · have hline : line.dropLast ++ ['\r'] = line := List.dropLast_append_getLast? '\r' h
    calc trimList line.dropLast = trimList (line.dropLast ++ ['\r']) :=
          (trimList_concat_blank (by decide) line.dropLast).symm
      _ = trimList line := by rw [hline]
  · rfl

end Text

/-! ### One line -/

namespace HeaderLine

/-- A name that a line can hold: it is not empty, no character of it ends the name or the
line, and it has no blank space at its two ends. -/
structure Nameable (name : String) : Prop where
  /-- No character ends the name. -/
  no_separator : ∀ c ∈ name.toList, isSeparator c = false
  /-- No character ends the line. -/
  no_end : '\n' ∉ name.toList
  /-- There is no blank space at the two ends. -/
  trimmed : Text.trimList name.toList = name.toList
  /-- There is a character. -/
  ne_nil : name.toList ≠ []

/-- A line is read at its first separator. -/
theorem readList_append {name rest : List Char} {c : Char}
    (hname : ∀ d ∈ name, isSeparator d = false) (hc : isSeparator c = true) :
    readList (name ++ c :: rest) =
      if (Text.trimList name).isEmpty then none
      else some (Text.trimList name, Text.trimList rest) := by
  have hkeep : ∀ d ∈ name, (!isSeparator d) = true := by
    intro d hd
    rw [hname d hd]
    rfl
  have hrest : (name ++ c :: rest).dropWhile (fun d => !isSeparator d) = c :: rest := by
    rw [List.dropWhile_append_of_pos hkeep]
    simp [hc]
  have hfront : (name ++ c :: rest).takeWhile (fun d => !isSeparator d) = name := by
    rw [List.takeWhile_append_of_pos hkeep]
    simp [hc]
  rw [readList, hrest, hfront]

theorem toList_write (name value : String) :
    (write name value).toList = name.toList ++ ':' :: ' ' :: value.toList ++ ['\n'] := by
  simp [write]

theorem toList_line (name value : String) :
    (name ++ ": " ++ value).toList = name.toList ++ ':' :: ' ' :: value.toList := by
  simp

/-- Behind a name that a line can hold stands the value, which is trimmed. -/
theorem readList_named {name : String} (hname : Nameable name) (rest : List Char) :
    readList (name.toList ++ ':' :: rest) = some (name.toList, Text.trimList rest) := by
  have hfilled : ¬ name.toList.isEmpty = true := by simpa using hname.ne_nil
  rw [readList_append hname.no_separator (by decide), hname.trimmed, if_neg hfilled]

/-- A header on a line is read from it with its value trimmed. -/
theorem read_line {name : String} (hname : Nameable name) (value : String) :
    read (name ++ ": " ++ value) = some (name, Text.trim value) := by
  have htrim : Text.trimList (' ' :: value.toList) = Text.trimList value.toList :=
    Text.trimList_cons_blank (by decide) value.toList
  rw [read, toList_line, readList_named hname, htrim, Option.map_some, String.ofList_toList, Text.trim]

/-- A header whose value has no line feed is one line, from which it is read again, the value
without the blank space at its two ends. -/
theorem read_written {name value : String} (hname : Nameable name) (hvalue : '\n' ∉ value.toList) :
    ∃ line, Text.lines (write name value) = [line] ∧ read line = some (name, Text.trim value) := by
  have hend : '\n' ∉ name.toList ++ ':' :: ' ' :: value.toList := by
    simp [hname.no_end, hvalue]
  have hreturn : Text.dropReturn (name.toList ++ ':' :: ' ' :: value.toList) =
      name.toList ++ ':' :: Text.dropReturn (' ' :: value.toList) := by
    rw [Text.dropReturn_append _ (List.cons_ne_nil _ _)]
    exact congrArg _ (Text.dropReturn_append [':'] (List.cons_ne_nil _ _))
  have htrim : Text.trimList (Text.dropReturn (' ' :: value.toList)) =
      Text.trimList value.toList := by
    rw [Text.trimList_dropReturn, Text.trimList_cons_blank (by decide)]
  refine ⟨_, by rw [Text.lines, toList_write, Text.splitLines_single hend, List.map_singleton], ?_⟩
  rw [read, String.toList_ofList, hreturn, readList_named hname, htrim, Option.map_some,
    String.ofList_toList, Text.trim]

end HeaderLine

/-! ### Several lines -/

namespace Settings

variable {line : String} {ls : List String} {header : String × String}
  {headers : List (String × String)} {failure : Failure}

theorem readHeader_eq_ok_iff :
    readHeader line = .ok header ↔ HeaderLine.read line = some header := by
  unfold readHeader
  cases HeaderLine.read line <;> simp

/-- Lines are headers exactly if each of them is one. -/
theorem readHeaders_eq_ok_iff : readHeaders ls = .ok headers ↔
    List.Forall₂ (fun line header => HeaderLine.read line = some header) ls headers := by
  induction ls generalizing headers with
  | nil => simp [readHeaders, eq_comm]
  | cons line ls ih =>
    rw [readHeaders, List.forall₂_cons_left_iff]
    simp only [Json.bind_eq_ok_iff, readHeader_eq_ok_iff, ih]
    constructor
    · rintro ⟨header, hline, headers, hrest, ⟨⟩⟩
      exact ⟨header, headers, hline, hrest, rfl⟩
    · rintro ⟨header, headers, hline, hrest, rfl⟩
      exact ⟨header, hline, headers, hrest, rfl⟩

/-- Otherwise the first line that is none is the failure. -/
theorem readHeaders_eq_error_iff : readHeaders ls = .error failure ↔
    ∃ line, ls.find? (fun l => (HeaderLine.read l).isNone) = some line ∧
      failure = .invalidHeader line := by
  induction ls with
  | nil => simp [readHeaders]
  | cons first ls ih =>
    rw [readHeaders, readHeader]
    cases hfirst : HeaderLine.read first with
    | none => simp [hfirst, bind, Except.bind, eq_comm]
    | some header =>
      rw [List.find?_cons_of_neg (by simp [hfirst]), ← ih]
      cases readHeaders ls <;> simp [bind, Except.bind, pure, Except.pure]

/-- The lines in front of the failure are headers. -/
theorem readHeaders_of_first {before after : List String}
    (hbefore : ∀ l ∈ before, HeaderLine.read l ≠ none) (hline : HeaderLine.read line = none) :
    readHeaders (before ++ line :: after) = .error (.invalidHeader line) := by
  refine readHeaders_eq_error_iff.mpr ⟨line, ?_, rfl⟩
  rw [List.find?_append, List.find?_eq_none.mpr, Option.none_or, List.find?_cons_of_pos]
  · rw [hline]
    rfl
  · intro l hl
    simpa using hbefore l hl

end Settings

end SignedHooks
