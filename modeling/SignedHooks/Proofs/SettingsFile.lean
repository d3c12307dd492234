/-
# What a settings file may say

Which documents are settings files, and what they give, is told by the tables themselves and
not by the way in which they are looked through. An entry that may be missing gives what its
value gives, and if it is missing what is fixed for that (`Settings.EntryGives`). A table is a
section if it has no entry but a secret that is a text and a tolerance that is an integer of
64 bits (`Settings.TableGives`), a list is one if it starts with these two
(`Settings.SectionGives`), and a document is a settings file if its root has no entry but a
section (`Settings.RootGives`).

The entries are looked at one after another, in the order of their names, and the first that
is not known ends it. But no two entries of a table have one name, so what the order is does
not matter (`Toml.Entries.find?_perm`), and along the entries each field stays what it was or
becomes what the one entry of its name gives (`Settings.File.foldlM_extend_eq_ok_iff`). So a
text that reads as a document is a settings file exactly if its root is one, and what it says
is what the root gives (`Settings.File.read_eq_ok_iff_rootGives`). A name that stands where no
such name is known is never passed over.

Key definitions: `Settings.EntryGives`, `Settings.TableGives`, `Settings.SectionGives`,
`Settings.RootGives`.
Key theorems: `Settings.File.foldlM_extend_eq_ok_iff`,
`Settings.File.ofSection_eq_ok_iff`, `Settings.File.ofDocument_eq_ok_iff`,
`Settings.File.read_eq_ok_iff_rootGives`.
-/
import SignedHooks.Proofs.JsonParts
import SignedHooks.Proofs.TomlKeys
import SignedHooks.Settings.File

namespace SignedHooks

namespace Settings

open Toml (Node Span Entries)

/-! ### What tables give -/

/-- What is given by an entry that may be missing. -/
inductive EntryGives {α : Type} (gives : Node → α → Prop) (missing : α) :
    Option (Span × Node) → α → Prop where
  /-- There is no entry. -/
  | absent : EntryGives gives missing none missing
  /-- There is one, and its value gives it. -/
  | present {value : Span × Node} {a : α} (h : gives value.2 a) :
    EntryGives gives missing (some value) a

/-- A value gives a text. -/
inductive GivesText : Node → Option String → Prop where
  /-- As a text. -/
  | text (s : String) : GivesText (.text s) (some s)

/-- A value gives an integer of 64 bits. -/
inductive GivesInteger : Node → Option Int → Prop where
  /-- As an integer that is neither too small nor too large. -/
  | integer {n : Int} (h : Signed64.Fits n) : GivesInteger (.integer n) (some n)

/-- The entries give the secret and the tolerance, and nothing else. -/
structure TableGives (entries : Entries) (file : File) : Prop where
  /-- There is no other name. -/
  known : ∀ name ∈ entries.names, name = secretName ∨ name = toleranceName
  /-- The secret. -/
  secret : EntryGives GivesText none (entries.find? secretName) file.secret
  /-- The tolerance. -/
  tolerance : EntryGives GivesInteger none (entries.find? toleranceName) file.tolerance

/-- The items of a list. -/
inductive ListOf : Node → List (Span × Node) → Prop where
  /-- A list in brackets. -/
  | array (items : List (Span × Node)) : ListOf (.array items) items
  /-- A list of the tables whose headers stand in double brackets. -/
  | tables (items : List (Span × Node)) : ListOf (.tables items) items

/-- A value gives a section. -/
inductive SectionGives : Node → File → Prop where
  /-- By the names of its fields. -/
  | table {origin : Toml.Origin} {entries : Entries} {file : File} (h : TableGives entries file) :
    SectionGives (.table origin entries) file
  /-- By the places of its two fields, of which neither is missing. -/
  | list {node : Node} {first second : Span × Node} {rest : List (Span × Node)} {file : File}
      (hitems : ListOf node (first :: second :: rest)) (hsecret : GivesText first.2 file.secret)
      (htolerance : GivesInteger second.2 file.tolerance) :
    SectionGives node file

/-- The root of a document gives a section, or nothing at all. -/
structure RootGives (root : Entries) (file : File) : Prop where
  /-- There is no other name. -/
  known : ∀ name ∈ root.names, name = sectionName
  /-- What the section gives. -/
  given : EntryGives SectionGives .empty (root.find? sectionName) file

/-! ### Values -/

section

variable {α : Type} {gives : Node → α → Prop} {missing a : α} {value : Span × Node}

@[simp] theorem entryGives_none_iff : EntryGives gives missing none a ↔ a = missing := by
  constructor
  · intro h
    cases h
    rfl
  · intro h
    rw [h]
    exact .absent

@[simp] theorem entryGives_some_iff :
    EntryGives gives missing (some value) a ↔ gives value.2 a := by
  constructor
  · intro h
    cases h with
    | present h => exact h
  · exact .present

theorem readText_eq_ok_iff {s : String} :
    readText value = .ok s ↔ GivesText value.2 (some s) := by
  obtain ⟨span, node⟩ := value
  constructor
  · intro h
    cases node with
    | text t =>
      cases h
      exact .text s
    | _ => cases h
  · intro h
    cases h
    rfl

theorem readInteger_eq_ok_iff {n : Int} :
    readInteger value = .ok n ↔ GivesInteger value.2 (some n) := by
  obtain ⟨span, node⟩ := value
  constructor
  · intro h
    cases node with
    | integer m =>
      simp only [readInteger] at h
      split_ifs at h with hfits
      cases h
      exact .integer hfits
    | _ => cases h
  · intro h
    cases h with
    | integer hfits => exact if_pos hfits

theorem GivesText.ne_none {node : Node} : ¬ GivesText node none := nofun

theorem GivesInteger.ne_none {node : Node} : ¬ GivesInteger node none := nofun

end

namespace File

variable {file next other : File} {entries : Entries} {e : Toml.Key × Span × Node}

/-! ### Tables -/

theorem secretName_ne_toleranceName : secretName ≠ toleranceName := by
  decide

/-- One more entry gives the secret or the tolerance, by its name, and leaves the other. -/
theorem extend_eq_ok_iff : file.extend e = .ok next ↔
    (e.1.name = secretName ∧ GivesText e.2.2 next.secret ∧ next.tolerance = file.tolerance) ∨
    (e.1.name = toleranceName ∧ next.secret = file.secret ∧
      GivesInteger e.2.2 next.tolerance) := by
  obtain ⟨secret, tolerance⟩ := next
  by_cases hsecret : e.1.name = secretName
  · rw [File.extend, if_pos hsecret, Json.map_eq_ok_iff]
    simp only [readText_eq_ok_iff, hsecret, secretName_ne_toleranceName, File.mk.injEq, true_and,
      false_and, or_false]
    cases secret with
    | none => simp [GivesText.ne_none]
    | some s => simp [@eq_comm _ tolerance]
  by_cases htolerance : e.1.name = toleranceName
  · rw [File.extend, if_neg hsecret, if_pos htolerance, Json.map_eq_ok_iff]
    simp only [readInteger_eq_ok_iff, htolerance, secretName_ne_toleranceName.symm,
      File.mk.injEq, true_and, false_and, false_or]
    cases tolerance with
    | none => simp [GivesInteger.ne_none]
    | some n => simp [@eq_comm _ secret, and_comm]
  · simp [File.extend, hsecret, htolerance]

/-- Along the entries of a table each field stays what it was, or becomes what the entry of its
name gives. -/
theorem foldlM_extend_eq_ok_iff (hproper : Toml.ProperEntries entries) :
    entries.foldlM File.extend file = .ok other ↔
      (∀ name ∈ entries.names, name = secretName ∨ name = toleranceName) ∧
      EntryGives GivesText file.secret (entries.find? secretName) other.secret ∧
      EntryGives GivesInteger file.tolerance (entries.find? toleranceName) other.tolerance := by
  induction entries generalizing file with
  | nil =>
    obtain ⟨secret, tolerance⟩ := other
    obtain ⟨secret', tolerance'⟩ := file
    simp [Entries.names, Entries.find?, pure, Except.pure, eq_comm]
  | cons e entries ih =>
    -- behind the first entry there is none of its name, which leaves its field as it is
    rw [List.foldlM_cons, Json.bind_eq_ok_iff]
    simp only [extend_eq_ok_iff, ih hproper.tail, Entries.names, List.map_cons,
      List.forall_mem_cons, Entries.find?_cons]
    by_cases hsecret : e.1.name = secretName
    · simp only [hsecret, secretName_ne_toleranceName, hproper.find?_tail hsecret, if_true,
        if_false, entryGives_none_iff, entryGives_some_iff, true_and, false_and, or_false]
      constructor
      · rintro ⟨next, ⟨hgives, hsame⟩, hknown, hother, htolerance⟩
        exact ⟨hknown, hother ▸ hgives, hsame ▸ htolerance⟩
      · rintro ⟨hknown, hgives, htolerance⟩
        exact ⟨⟨other.secret, file.tolerance⟩, ⟨hgives, rfl⟩, hknown, rfl, htolerance⟩
    by_cases htolerance : e.1.name = toleranceName
    · simp only [htolerance, secretName_ne_toleranceName.symm, hproper.find?_tail htolerance,
        if_true, if_false, entryGives_none_iff, entryGives_some_iff, true_and, false_and,
        or_true, false_or]
      constructor
      · rintro ⟨next, ⟨hsame, hgives⟩, hknown, hsecret, hother⟩
        exact ⟨hknown, hsame ▸ hsecret, hother ▸ hgives⟩
      · rintro ⟨hknown, hsecret, hgives⟩
        exact ⟨⟨file.secret, other.tolerance⟩, ⟨rfl, hgives⟩, hknown, hsecret, rfl⟩
    · simp [hsecret, htolerance]

theorem inOrder_perm (entries : Entries) : (inOrder entries).Perm entries :=
  List.mergeSort_perm entries _

theorem mem_names_inOrder {name : String} :
    name ∈ (inOrder entries).names ↔ name ∈ entries.names :=
  ((inOrder_perm entries).map _).mem_iff

theorem find?_inOrder {name : String} (hproper : Toml.ProperEntries entries) :
    (inOrder entries).find? name = entries.find? name :=
  (Entries.find?_perm (inOrder_perm entries).symm hproper.nodup).symm

theorem foldlM_inOrder_eq_ok_iff (hproper : Toml.ProperEntries entries) :
    (inOrder entries).foldlM File.extend File.empty = .ok file ↔ TableGives entries file := by
  rw [foldlM_extend_eq_ok_iff (hproper.perm (inOrder_perm entries).symm), find?_inOrder hproper,
    find?_inOrder hproper]
  simp only [mem_names_inOrder]
  exact ⟨fun ⟨hknown, hsecret, htolerance⟩ => ⟨hknown, hsecret, htolerance⟩,
    fun ⟨hknown, hsecret, htolerance⟩ => ⟨hknown, hsecret, htolerance⟩⟩

/-! ### Sections -/

/-- Of a list the first two items are the fields, and what stands behind them is not read. -/
theorem ofItems_eq_ok_iff {span : Span} {items : List (Span × Node)} :
    ofItems span items = .ok file ↔ ∃ first second rest, items = first :: second :: rest ∧
      GivesText first.2 file.secret ∧ GivesInteger second.2 file.tolerance := by
  match items with
  | [] => simp [ofItems]
  | [first] => simp [ofItems, Json.bind_eq_ok_iff]
  | first :: second :: rest =>
    constructor
    · intro h
      obtain ⟨s, hs, h⟩ := Json.bind_eq_ok_iff.mp h
      obtain ⟨n, hn, h⟩ := Json.bind_eq_ok_iff.mp h
      cases h
      exact ⟨first, second, rest, rfl, readText_eq_ok_iff.mp hs, readInteger_eq_ok_iff.mp hn⟩
    · rintro ⟨_, _, _, heq, hs, hn⟩
      cases heq
      obtain ⟨_ | s, _ | n⟩ := file
      · exact absurd hs GivesText.ne_none
      · exact absurd hs GivesText.ne_none
      · exact absurd hn GivesInteger.ne_none
      · refine Json.bind_eq_ok_iff.mpr ⟨s, readText_eq_ok_iff.mpr hs, ?_⟩
        exact Json.bind_eq_ok_iff.mpr ⟨n, readInteger_eq_ok_iff.mpr hn, rfl⟩

theorem sectionGives_table_iff {origin : Toml.Origin} :
    SectionGives (.table origin entries) file ↔ TableGives entries file := by
  constructor
  · intro h
    cases h with
    | table h => exact h
    | list hitems => cases hitems
  · exact .table

theorem sectionGives_iff_of_listOf {node : Node} {items : List (Span × Node)}
    (hitems : ListOf node items) : SectionGives node file ↔
      ∃ first second rest, items = first :: second :: rest ∧
        GivesText first.2 file.secret ∧ GivesInteger second.2 file.tolerance := by
  constructor
  · intro h
    cases h with
    | table => cases hitems
    | list hlist hs hn =>
      cases hitems <;> cases hlist <;> exact ⟨_, _, _, rfl, hs, hn⟩
  · rintro ⟨first, second, rest, rfl, hs, hn⟩
    exact .list hitems hs hn

theorem ofSection_eq_ok_iff {value : Span × Node} (hproper : Toml.Proper value.2) :
    ofSection value = .ok file ↔ SectionGives value.2 file := by
  obtain ⟨span, node⟩ := value
  cases node with
  | table origin entries =>
    rw [sectionGives_table_iff]
    exact foldlM_inOrder_eq_ok_iff (Toml.proper_table_iff.mp hproper)
  | array items =>
    rw [sectionGives_iff_of_listOf (.array items)]
    exact ofItems_eq_ok_iff
  | tables items =>
    rw [sectionGives_iff_of_listOf (.tables items)]
    exact ofItems_eq_ok_iff
  | _ =>
    refine iff_of_false nofun ?_
    rintro (_ | ⟨hlist⟩)
    cases hlist

/-! ### Documents -/

theorem foldlM_ofSection_eq_ok_iff (hproper : Toml.ProperEntries entries) :
    entries.foldlM (fun _ entry =>
        if entry.1.name = sectionName then ofSection entry.2
        else .error (unknown entry.1.span entry.1.name [sectionName])) file = .ok other ↔
      (∀ name ∈ entries.names, name = sectionName) ∧
      EntryGives SectionGives file (entries.find? sectionName) other := by
  induction entries generalizing file with
  | nil => simp [Entries.names, Entries.find?, pure, Except.pure, eq_comm]
  | cons e entries ih =>
    rw [List.foldlM_cons, Json.bind_eq_ok_iff]
    simp only [ih hproper.tail, Entries.names, List.map_cons, List.forall_mem_cons,
      Entries.find?_cons]
    by_cases hname : e.1.name = sectionName
    · simp only [hname, hproper.find?_tail hname, if_true, entryGives_none_iff,
        entryGives_some_iff, true_and,
        ofSection_eq_ok_iff (hproper.values e List.mem_cons_self)]
      constructor
      · rintro ⟨next, hgives, hknown, rfl⟩
        exact ⟨hknown, hgives⟩
      · rintro ⟨hknown, hgives⟩
        exact ⟨other, hgives, hknown, rfl⟩
    · simp [hname]

theorem ofDocument_eq_ok_iff {root : Entries} (hproper : Toml.ProperEntries root) :
    ofDocument root = .ok file ↔ RootGives root file := by
  rw [ofDocument, foldlM_ofSection_eq_ok_iff (hproper.perm (inOrder_perm root).symm),
    find?_inOrder hproper]
  simp only [mem_names_inOrder]
  exact ⟨fun ⟨hknown, hgiven⟩ => ⟨hknown, hgiven⟩, fun ⟨hknown, hgiven⟩ => ⟨hknown, hgiven⟩⟩

/-- A text that reads as a document is a settings file exactly if the root of the document is
one, and then says what the root gives. -/
theorem read_eq_ok_iff_rootGives {text : String} {root : Entries}
    (hroot : Toml.readDocument text.toList = some root) :
    File.read text = .ok file ↔ RootGives root file := by
  have hread : File.read text = (ofDocument root).mapError (Misfit.locate text.toList) := by
    rw [File.read, hroot]
  rw [hread, ← ofDocument_eq_ok_iff (Toml.properEntries_of_readDocument hroot)]
  cases ofDocument root with
  | error misfit => exact iff_of_false nofun nofun
  | ok file' => rw [Except.mapError, Except.ok.injEq, Except.ok.injEq]

theorem exists_error_of_forall_ne {text : String} (h : ∀ file, File.read text ≠ .ok file) :
    ∃ fault, File.read text = .error fault := by
  cases hread : File.read text with
  | error fault => exact ⟨fault, rfl⟩
  | ok file => exact absurd hread (h file)

/-- **Settings files.** A text that reads as a document is a settings file exactly if the root
of the document has no entry but a section, and the section is a table with no entry but a
secret and a tolerance, or a list that starts with the two, each of its type. Then it says what
these entries give, and of what is missing nothing. No other name is passed over, neither in the
root nor in the section. -/
theorem read_iff_root {text : String} {root : Entries}
    (hroot : Toml.readDocument text.toList = some root) :
    (∀ file, File.read text = .ok file ↔ RootGives root file) ∧
    (∀ name ∈ root.names, name ≠ sectionName → ∃ fault, File.read text = .error fault) ∧
    ∀ (span : Span) (origin : Toml.Origin) (entries : Entries),
      root.find? sectionName = some (span, .table origin entries) →
      ∀ name ∈ entries.names, name ≠ secretName → name ≠ toleranceName →
        ∃ fault, File.read text = .error fault := by
  refine ⟨fun file => read_eq_ok_iff_rootGives hroot, ?_, ?_⟩
  · intro name hmem hne
    refine exists_error_of_forall_ne fun file hread => ?_
    exact hne (((read_eq_ok_iff_rootGives hroot).mp hread).known name hmem)
  · intro span origin entries hfind name hmem hsecret htolerance
    refine exists_error_of_forall_ne fun file hread => ?_
    have hgiven := ((read_eq_ok_iff_rootGives hroot).mp hread).given
    rw [hfind, entryGives_some_iff, sectionGives_table_iff] at hgiven
    rcases hgiven.known name hmem with hname | hname
    · exact hsecret hname
    · exact htolerance hname

/-- Both fields under dotted keys, the tolerance in front. -/
def dottedText : String := "webhook.tolerance_ms = -1\nwebhook.secret = \"s\"\n"

theorem read_dottedText : (∃ root, Toml.readDocument dottedText.toList = some root) ∧
    File.read dottedText = .ok ⟨some "s", some (-1)⟩ := by
  have hroot : Toml.readDocument dottedText.toList = some _ := rfl
  obtain ⟨hread, -, -⟩ := read_iff_root hroot
  refine ⟨⟨_, hroot⟩, (hread _).mpr ⟨by decide, .present (.table ⟨by decide, ?_, ?_⟩)⟩⟩
  · exact .present (.text "s")
  · exact .present (.integer (by decide))

end File
end Settings
end SignedHooks
