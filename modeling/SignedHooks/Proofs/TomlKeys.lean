/-
# No table of a document has two entries of one name

The tables of a document grow by one statement after another. A value is proper if no table in
it, at whatever depth, has two entries of the same name (`Toml.Proper`). An entry is only put
where there is none of its name, and where there is one it is replaced by one of the same name
(`Toml.ProperEntries.push`, `Toml.ProperEntries.replace`, `Toml.ProperEntries.update`). So every
change of a table keeps it proper (`Toml.Change.Keeps`), also one that is made at a path below
it, and the root of a document is proper (`Toml.properEntries_of_readDocument`).

Key definitions: `Toml.Proper`, `Toml.ProperEntries`, `Toml.Change.Keeps`.
Key theorems: `Toml.Change.Keeps.within`, `Toml.keeps_assign`, `Toml.keeps_openTable`,
`Toml.keeps_openItem`, `Toml.properEntries_of_readDocument`.
-/
import Mathlib.Data.List.Find
import Mathlib.Data.List.Nodup
import SignedHooks.Toml.Reader

namespace SignedHooks
namespace Toml

/-- The names of a table, in the order of its entries. -/
def Entries.names (entries : Entries) : List String :=
  entries.map fun e => e.1.name

/-! ### Proper values -/

/-- No table in the value has two entries of one name. -/
inductive Proper : Node → Prop where
  /-- A text. -/
  | text {s : String} : Proper (.text s)
  /-- An integer. -/
  | integer {n : Int} : Proper (.integer n)
  /-- Digits that spell no integer. -/
  | unreadable : Proper .unreadable
  /-- A number that is no integer. -/
  | floating {x : Floating} : Proper (.floating x)
  /-- A truth value. -/
  | boolean {b : Bool} : Proper (.boolean b)
  /-- A date or a time. -/
  | moment : Proper .moment
  /-- A list. -/
  | array {items : List (Span × Node)} : (∀ item ∈ items, Proper item.2) → Proper (.array items)
  /-- A list of tables. -/
  | tables {items : List (Span × Node)} : (∀ item ∈ items, Proper item.2) → Proper (.tables items)
  /-- A table. -/
  | table {origin : Origin} {entries : Entries} : Entries.names entries |>.Nodup →
      (∀ e ∈ entries, Proper e.2.2) → Proper (.table origin entries)

/-- No table in the entries, nor the one that they make up, has two entries of one name. -/
structure ProperEntries (entries : Entries) : Prop where
  /-- No two entries have the same name. -/
  nodup : entries.names.Nodup
  /-- The values are proper. -/
  values : ∀ e ∈ entries, Proper e.2.2

theorem proper_table_iff {origin : Origin} {entries : Entries} :
    Proper (.table origin entries) ↔ ProperEntries entries := by
  constructor
  · intro h
    cases h with
    | table hnodup hvalues => exact ⟨hnodup, hvalues⟩
  · rintro ⟨hnodup, hvalues⟩
    exact .table hnodup hvalues

theorem proper_tables_iff {items : List (Span × Node)} :
    Proper (.tables items) ↔ ∀ item ∈ items, Proper item.2 := by
  constructor
  · intro h
    cases h with
    | tables hitems => exact hitems
  · exact .tables

/-! ### Entries -/

theorem properEntries_nil : ProperEntries [] :=
  ⟨List.nodup_nil, nofun⟩

variable {entries es : Entries} {key : Key} {name : String} {value : Span × Node}

theorem Entries.find?_eq_none_iff :
    entries.find? name = none ↔ name ∉ entries.names := by
  simp [Entries.find?, Entries.names, List.find?_eq_none]

theorem Entries.mem_of_find? (h : entries.find? name = some value) :
    ∃ e ∈ entries, e.1.name = name ∧ e.2 = value := by
  obtain ⟨e, he, rfl⟩ := Option.map_eq_some_iff.mp h
  exact ⟨e, List.mem_of_find?_eq_some he, by simpa using List.find?_some he, rfl⟩

theorem Entries.find?_cons {e : Key × Span × Node} :
    Entries.find? (e :: entries) name =
      if e.1.name = name then some e.2 else entries.find? name := by
  by_cases h : e.1.name = name
  · simp [Entries.find?, h]
  · simp [Entries.find?, h]

/-- The entry of a name does not depend on the order if there is only one. -/
theorem Entries.find?_perm (h : entries.Perm es) (hnodup : entries.names.Nodup) :
    entries.find? name = es.find? name := by
  refine congrArg _ (List.find?_eq_find?_of_perm h ?_)
  rintro a ⟨ha, haname⟩ b ⟨hb, hbname⟩
  exact List.inj_on_of_nodup_map hnodup ha hb
    ((beq_iff_eq.mp haname).trans (beq_iff_eq.mp hbname).symm)

namespace ProperEntries

/-- The first entry is the only one of its name. -/
theorem find?_tail {e : Key × Span × Node} (h : ProperEntries (e :: entries))
    (hname : e.1.name = name) : entries.find? name = none := by
  have hfresh : e.1.name ∉ entries.names := (List.nodup_cons.mp h.nodup).1
  exact Entries.find?_eq_none_iff.mpr (hname ▸ hfresh)

theorem tail {e : Key × Span × Node} (h : ProperEntries (e :: entries)) :
    ProperEntries entries :=
  ⟨(List.nodup_cons.mp h.nodup).2, (List.forall_mem_cons.mp h.values).2⟩

theorem perm (h : ProperEntries entries) (hperm : entries.Perm es) : ProperEntries es := by
  refine ⟨((hperm.map _).nodup_iff).mp h.nodup, ?_⟩
  intro e he
  exact h.values e (hperm.mem_iff.mpr he)

theorem find? (h : ProperEntries entries) (hfind : entries.find? name = some value) :
    Proper value.2 := by
  obtain ⟨e, he, -, rfl⟩ := Entries.mem_of_find? hfind
  exact h.values e he

/-- An entry is put behind others of which none has its name. -/
theorem push (h : ProperEntries entries) (hnone : entries.find? key.name = none)
    (hvalue : Proper value.2) : ProperEntries (entries.push key value) := by
  rw [Entries.find?_eq_none_iff] at hnone
  constructor
  · rw [Entries.names, Entries.push, List.map_append, List.map_singleton, List.nodup_append]
    refine ⟨h.nodup, List.nodup_singleton _, ?_⟩
    intro a ha b hb hab
    rw [List.mem_singleton] at hb
    exact hnone (hb ▸ hab ▸ ha)
  · intro e he
    rcases List.mem_append.mp he with he | he
    · exact h.values e he
    · rw [List.mem_singleton] at he
      rw [he]
      exact hvalue

/-- Entries whose names stay and whose values are proper. -/
theorem of_map (h : ProperEntries entries) {f : Key × Span × Node → Key × Span × Node}
    (hname : ∀ e, (f e).1.name = e.1.name) (hvalue : ∀ e ∈ entries, Proper (f e).2.2) :
    ProperEntries (entries.map f) := by
  constructor
  · rw [Entries.names, List.map_map]
    have hsame : (fun e : Key × Span × Node => e.1.name) ∘ f = fun e => e.1.name := funext hname
    rw [hsame]
    exact h.nodup
  · intro e he
    obtain ⟨e', he', rfl⟩ := List.mem_map.mp he
    exact hvalue e' he'

theorem update (h : ProperEntries entries) (hvalue : Proper value.2) :
    ProperEntries (entries.update name value) := by
  refine h.of_map (fun e => by split_ifs <;> rfl) ?_
  intro e he
  split_ifs
  · exact hvalue
  · exact h.values e he

theorem replace (h : ProperEntries entries) (hvalue : Proper value.2) :
    ProperEntries (entries.replace key value) := by
  refine h.of_map ?_ ?_
  · intro e
    split_ifs with hname
    · exact (beq_iff_eq.mp hname).symm
    · rfl
  · intro e he
    split_ifs
    · exact hvalue
    · exact h.values e he

end ProperEntries

/-! ### Changes -/

/-- The change keeps proper entries proper. -/
def Change.Keeps (change : Change) : Prop :=
  ∀ (origin : Origin) (entries es : Entries), ProperEntries entries →
    change origin entries = some es → ProperEntries es

variable {change : Change} {walk : Walk} {changed : Span × Node}

theorem Change.Keeps.changeTable (hchange : change.Keeps) (h : Proper value.2)
    (heq : changeTable change value = some changed) : Proper changed.2 := by
  obtain ⟨span, node⟩ := value
  cases node with
  | table origin entries =>
    obtain ⟨es, hes, rfl⟩ := Option.map_eq_some_iff.mp heq
    exact proper_table_iff.mpr (hchange _ _ _ (proper_table_iff.mp h) hes)
  | _ => cases heq

theorem Change.Keeps.changeLast (hchange : change.Keeps) :
    ∀ {items others : List (Span × Node)}, (∀ item ∈ items, Proper item.2) →
      changeLast change items = some others → ∀ item ∈ others, Proper item.2
  | [], _, _, heq => by cases heq
  | [item], _, h, heq => by
    obtain ⟨changed, hchanged, rfl⟩ := Option.map_eq_some_iff.mp heq
    intro other hother
    rw [List.mem_singleton] at hother
    rw [hother]
    exact hchange.changeTable (h item (List.mem_singleton_self item)) hchanged
  | item :: next :: rest, _, h, heq => by
    obtain ⟨others, hothers, rfl⟩ := Option.map_eq_some_iff.mp heq
    obtain ⟨hitem, hrest⟩ := List.forall_mem_cons.mp h
    exact List.forall_mem_cons.mpr ⟨hitem, hchange.changeLast hrest hothers⟩

theorem Change.Keeps.enter (hchange : change.Keeps) (h : Proper value.2)
    (heq : enter walk change value = some changed) : Proper changed.2 := by
  obtain ⟨span, node⟩ := value
  cases node with
  | table origin entries =>
    rw [Toml.enter] at heq
    split_ifs at heq
    exact hchange.changeTable h heq
  | tables items =>
    obtain ⟨others, hothers, rfl⟩ := Option.map_eq_some_iff.mp heq
    exact proper_tables_iff.mpr (hchange.changeLast (proper_tables_iff.mp h) hothers)
  | _ => cases heq

/-- A change at a path below a table keeps what the change itself keeps. -/
theorem Change.Keeps.within (hchange : change.Keeps) (path : List Key) :
    (within walk change path).Keeps := by
  induction path with
  | nil => exact hchange
  | cons key path ih =>
    intro origin entries es h heq
    rw [Toml.within] at heq
    cases hfind : entries.find? key.name with
    | none =>
      rw [hfind] at heq
      obtain ⟨made, hmade, hes⟩ := Option.bind_eq_some_iff.mp heq
      cases hes
      exact h.push hfind (proper_table_iff.mpr (ih _ _ _ properEntries_nil hmade))
    | some value =>
      rw [hfind] at heq
      obtain ⟨changed, hchanged, hes⟩ := Option.bind_eq_some_iff.mp heq
      cases hes
      exact h.update (ih.enter (h.find? hfind) hchanged)

theorem keeps_assign (path : List Key) (key : Key) (hvalue : Proper value.2) :
    (assign path key value).Keeps := by
  refine Change.Keeps.within ?_ path
  intro origin entries es h heq
  simp only at heq
  split_ifs at heq with _ hfree
  cases heq
  exact h.push (Option.not_isSome_iff_eq_none.mp hfree) hvalue

theorem proper_emptyTable (origin : Origin) : Proper (.table origin []) :=
  proper_table_iff.mpr properEntries_nil

theorem keeps_openTable (path : List Key) (key : Key) (header : Span) :
    (openTable path key header).Keeps := by
  refine Change.Keeps.within ?_ path
  intro origin entries es h heq
  simp only at heq
  split at heq
  · next hfind =>
    cases heq
    exact h.push hfind (proper_emptyTable _)
  · next hfind =>
    cases heq
    exact h.replace (proper_table_iff.mpr (proper_table_iff.mp (h.find? hfind)))
  · cases heq

theorem keeps_openItem (path : List Key) (key : Key) (header : Span) :
    (openItem path key header).Keeps := by
  refine Change.Keeps.within ?_ path
  intro origin entries es h heq
  simp only at heq
  split at heq
  · next hfind =>
    cases heq
    exact h.push hfind (proper_tables_iff.mpr (by simpa using proper_emptyTable _))
  · next hfind =>
    cases heq
    refine h.update (proper_tables_iff.mpr ?_)
    intro item hmem
    rcases List.mem_append.mp hmem with hmem | hmem
    · exact proper_tables_iff.mp (h.find? hfind) item hmem
    · rw [List.mem_singleton.mp hmem]
      exact proper_emptyTable _
  · cases heq

/-! ### Reading -/

/-- Every value that is read is proper. -/
def ReadsProper (reader : ValueReader) : Prop :=
  ∀ (cs rest : List Char) (node : Node), reader cs = some (node, rest) → Proper node

theorem proper_ofDigits (sign : Sign) (digits : List Char) : Proper (ofDigits sign digits) := by
  unfold ofDigits
  split_ifs
  · exact .integer
  · exact .unreadable

theorem proper_of_ofBase {base : Nat} {digits : List Char} {node : Node}
    (h : ofBase? base digits = some node) : Proper node := by
  unfold ofBase? at h
  split_ifs at h
  · cases h
    exact .unreadable
  · obtain ⟨read, -, rfl⟩ := Option.map_eq_some_iff.mp h
    exact .integer

theorem proper_of_decimal {sign : Sign} {cs : List Char} {node : Node}
    (h : decimal? sign cs = some node) : Proper node := by
  unfold decimal? at h
  split at h
  · obtain ⟨digits, -, rfl⟩ := Option.map_eq_some_iff.mp h
    exact proper_ofDigits sign digits
  · simp only at h
    split_ifs at h
    cases h
    exact proper_ofDigits sign _
  · cases h

theorem proper_of_integer {word : List Char} {node : Node} (h : integer? word = some node) :
    Proper node := by
  unfold integer? at h
  split at h
  · exact proper_of_ofBase h
  · exact proper_of_ofBase h
  · exact proper_of_ofBase h
  · exact proper_of_decimal h

theorem proper_of_word {word : List Char} {node : Node} (h : word? word = some node) :
    Proper node := by
  unfold word? at h
  by_cases htrue : word = "true".toList
  · rw [if_pos htrue] at h
    cases h
    exact .boolean
  by_cases hfalse : word = "false".toList
  · rw [if_neg htrue, if_pos hfalse] at h
    cases h
    exact .boolean
  rw [if_neg htrue, if_neg hfalse] at h
  split at h
  · next hinteger =>
    cases h
    exact proper_of_integer hinteger
  split at h
  · cases h
    exact .floating
  by_cases hmoment : isMoment word = true
  · rw [if_pos hmoment] at h
    cases h
    exact .moment
  · rw [if_neg hmoment] at h
    cases h

variable {reader : ValueReader} {cs rest : List Char}

theorem ReadsProper.placed (hreader : ReadsProper reader)
    (h : placed reader cs = some (value, rest)) : Proper value.2 := by
  obtain ⟨⟨node, behind⟩, hread, heq⟩ := Option.map_eq_some_iff.mp h
  cases heq
  exact hreader _ _ _ hread

theorem ReadsProper.readEntry {skip : List Char → List Char} {path : List Key}
    (hreader : ReadsProper reader)
    (h : readEntry skip reader cs = some ((path, key, value), rest)) : Proper value.2 := by
  unfold Toml.readEntry at h
  obtain ⟨⟨path', key', after⟩, -, h⟩ := Option.bind_eq_some_iff.mp h
  obtain ⟨behind, -, h⟩ := Option.bind_eq_some_iff.mp h
  obtain ⟨⟨value', after'⟩, hplaced, h⟩ := Option.bind_eq_some_iff.mp h
  cases h
  exact hreader.placed hplaced

theorem ReadsProper.readItems (hreader : ReadsProper reader) :
    ∀ (n : Nat) {cs rest : List Char} {items : List (Span × Node)},
      readItems reader n cs = some (items, rest) → ∀ item ∈ items, Proper item.2 := by
  intro n cs
  fun_induction Toml.readItems reader n cs with
  | case1 =>
    intro rest items h
    cases h
  | case2 =>
    intro rest items h
    cases h
    exact nofun
  | case3 n cs hend ih =>
    intro rest items h
    obtain ⟨⟨item, behind⟩, hitem, h⟩ := Option.bind_eq_some_iff.mp h
    simp only at h
    split at h
    · obtain ⟨⟨more, after⟩, hmore, h⟩ := Option.bind_eq_some_iff.mp h
      cases h
      exact List.forall_mem_cons.mpr ⟨hreader.placed hitem, ih _ hmore⟩
    · cases h
      simpa using hreader.placed hitem
    · cases h

theorem ReadsProper.readEntries (hreader : ReadsProper reader) :
    ∀ (n : Nat) {entries es : Entries} {cs rest : List Char}, ProperEntries entries →
      readEntries reader n entries cs = some (es, rest) → ProperEntries es := by
  intro n entries es cs
  fun_induction Toml.readEntries reader n entries cs with
  | case1 =>
    intro rest _ h
    cases h
  | case2 =>
    intro rest hentries h
    cases h
    exact hentries
  | case3 n entries cs hend ih =>
    intro rest hentries h
    obtain ⟨⟨⟨path, key, value⟩, behind⟩, hentry, h⟩ := Option.bind_eq_some_iff.mp h
    simp only at h
    obtain ⟨more, hmore, h⟩ := Option.bind_eq_some_iff.mp h
    have hproper := keeps_assign path key (hreader.readEntry hentry) _ _ _ hentries hmore
    split at h
    · exact ih _ _ hproper h
    · cases h
      exact hproper
    · cases h

/-- Every value that is read is proper, however deep it nests. -/
theorem readsProper_readValueUpTo (depth : Nat) : ReadsProper (readValueUpTo depth) := by
  induction depth using Nat.strongRecOn with
  | ind depth ih =>
    intro cs rest node h
    fun_induction readValueUpTo depth cs with
    | case1 depth cs quoted hquoted =>
      obtain ⟨p, -, heq⟩ := Option.map_eq_some_iff.mp h
      cases heq
      exact .text
    | case2 => cases h
    | case3 => cases h
    | case4 items below htext =>
      obtain ⟨p, hitems, heq⟩ := Option.map_eq_some_iff.mp h
      cases heq
      exact .array ((ih below (Nat.lt_succ_self below)).readItems _ hitems)
    | case5 items below htext =>
      obtain ⟨p, hentries, heq⟩ := Option.map_eq_some_iff.mp h
      cases heq
      exact proper_table_iff.mpr
        ((ih below (Nat.lt_succ_self below)).readEntries _ properEntries_nil hentries)
    | case6 depth cs word behind =>
      obtain ⟨p, hword, heq⟩ := Option.map_eq_some_iff.mp h
      cases heq
      exact proper_of_word hword

/-! ### Documents -/

/-- The value that a statement gives, if it gives one, is proper. -/
def Statement.Proper : Statement → Prop
  | .table _ _ _ => True
  | .item _ _ _ => True
  | .entry _ _ value => Toml.Proper value.2

theorem proper_of_readStatement {statement : Statement}
    (h : readStatement cs = some (statement, rest)) : statement.Proper := by
  unfold readStatement at h
  split at h
  · obtain ⟨⟨path, key, behind⟩, -, h⟩ := Option.bind_eq_some_iff.mp h
    obtain ⟨inner, -, h⟩ := Option.bind_eq_some_iff.mp h
    obtain ⟨after, -, h⟩ := Option.bind_eq_some_iff.mp h
    cases h
    trivial
  · obtain ⟨⟨path, key, behind⟩, -, h⟩ := Option.bind_eq_some_iff.mp h
    obtain ⟨after, -, h⟩ := Option.bind_eq_some_iff.mp h
    cases h
    trivial
  · obtain ⟨⟨⟨path, key, value⟩, after⟩, hentry, h⟩ := Option.bind_eq_some_iff.mp h
    cases h
    exact (readsProper_readValueUpTo deepest).readEntry hentry

theorem proper_of_readStatements (n : Nat) : ∀ {cs : List Char} {statements : List Statement},
    readStatements n cs = some statements → ∀ s ∈ statements, s.Proper := by
  induction n with
  | zero =>
    intro cs statements h
    cases h
  | succ n ih =>
    intro cs statements h
    rw [readStatements] at h
    split at h
    · cases h
      exact nofun
    · obtain ⟨⟨statement, behind⟩, hstatement, h⟩ := Option.bind_eq_some_iff.mp h
      obtain ⟨next, -, h⟩ := Option.bind_eq_some_iff.mp h
      obtain ⟨others, hothers, h⟩ := Option.bind_eq_some_iff.mp h
      cases h
      exact List.forall_mem_cons.mpr ⟨proper_of_readStatement hstatement, ih hothers⟩

/-- Statements one after another keep the root proper. -/
theorem properEntries_of_build : ∀ {statements : List Statement} {current : List Key}
    {root es : Entries}, (∀ s ∈ statements, s.Proper) → ProperEntries root →
      build statements current root = some es → ProperEntries es
  | [], _, _, _, _, hroot, h => by
    cases h
    exact hroot
  | .table path key header :: statements, _, _, _, hall, hroot, h => by
    obtain ⟨next, hnext, h⟩ := Option.bind_eq_some_iff.mp h
    exact properEntries_of_build (List.forall_mem_cons.mp hall).2
      (keeps_openTable path key header _ _ _ hroot hnext) h
  | .item path key header :: statements, _, _, _, hall, hroot, h => by
    obtain ⟨next, hnext, h⟩ := Option.bind_eq_some_iff.mp h
    exact properEntries_of_build (List.forall_mem_cons.mp hall).2
      (keeps_openItem path key header _ _ _ hroot hnext) h
  | .entry path key value :: statements, current, _, _, hall, hroot, h => by
    obtain ⟨next, hnext, h⟩ := Option.bind_eq_some_iff.mp h
    obtain ⟨hvalue, hrest⟩ := List.forall_mem_cons.mp hall
    have hkeeps : (within .toHeader (assign path key value) current).Keeps :=
      (keeps_assign path key hvalue).within current
    exact properEntries_of_build hrest (hkeeps _ _ _ hroot hnext) h

/-- No table of a document has two entries of one name, and the root neither. -/
theorem properEntries_of_readDocument {root : Entries} (h : readDocument cs = some root) :
    ProperEntries root := by
  obtain ⟨statements, hstatements, hbuild⟩ := Option.bind_eq_some_iff.mp h
  exact properEntries_of_build (proper_of_readStatements _ hstatements) properEntries_nil hbuild

end Toml
end SignedHooks
