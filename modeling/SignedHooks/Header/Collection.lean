/-
# Collections of headers

The headers of a delivery in the shapes that web frameworks give them: a list
of pairs, which may have a fixed length, a table with one value for each name,
or the fields of an HTTP message; or any of these lent by what holds them. One
look-up serves all: a name that is spelt exactly so goes before one that differs
in case, and among those the first in the order of the collection.

Key definitions: `Headers`, `Headers.get?`, `Headers.pairValue?`, `HeaderTable`,
`HeaderTable.insert`, `HeaderTable.sorted`.
Key theorems: `HeaderTable.distinct_upsert`.
-/
import SignedHooks.Header.Fields
import SignedHooks.Header.Value

namespace SignedHooks

/-- A table of headers in the order in which it is scanned. -/
structure HeaderTable where
  /-- The names with their values. -/
  entries : List (String × HeaderValue)
  /-- No name stands in the table twice. -/
  distinct : (entries.map (·.1)).Nodup

namespace HeaderTable

/-- The entries with the value of `name` replaced, or put behind them. -/
def upsert (name : String) (value : HeaderValue) :
    List (String × HeaderValue) → List (String × HeaderValue)
  | [] => [(name, value)]
  | e :: rest => if e.1 = name then (name, value) :: rest else e :: upsert name value rest

theorem mem_names_upsert {name other : String} {value : HeaderValue} :
    ∀ {entries : List (String × HeaderValue)},
      other ∈ (upsert name value entries).map (·.1) → other = name ∨ other ∈ entries.map (·.1)
  | [], h => by simpa [upsert] using h
  | e :: rest, h => by
    unfold upsert at h
    split at h
    · simp only [List.map_cons, List.mem_cons] at h ⊢
      exact h.imp_right Or.inr
    · simp only [List.map_cons, List.mem_cons] at h ⊢
      rcases h with h | h
      · exact Or.inr (Or.inl h)
      · exact (mem_names_upsert h).imp_right Or.inr

/-- Replacing or adding a value leaves the names distinct. -/
theorem distinct_upsert (name : String) (value : HeaderValue) :
    ∀ {entries : List (String × HeaderValue)}, (entries.map (·.1)).Nodup →
      ((upsert name value entries).map (·.1)).Nodup
  | [], _ => by simp [upsert]
  | e :: rest, h => by
    simp only [List.map_cons, List.nodup_cons] at h
    unfold upsert
    split
    · next heq => simpa [← heq] using h
    · next hne =>
      simp only [List.map_cons, List.nodup_cons]
      refine ⟨fun hmem => ?_, distinct_upsert name value h.2⟩
      rcases mem_names_upsert hmem with heq | hin
      · exact hne heq
      · exact h.1 hin

/-- No headers at all. -/
def empty : HeaderTable := ⟨[], by simp⟩

/-- The table with the value of a name set. -/
def insert (t : HeaderTable) (name : String) (value : HeaderValue) : HeaderTable :=
  ⟨upsert name value t.entries, distinct_upsert name value t.distinct⟩

/-- The table of some entries: of several under one name the last counts. -/
def ofEntries (entries : List (String × HeaderValue)) : HeaderTable :=
  entries.foldl (fun t e => t.insert e.1 e.2) empty

/-- The table scanned in the order of its names. -/
def sorted (t : HeaderTable) : HeaderTable :=
  ⟨t.entries.mergeSort (fun a b => a.1 ≤ b.1),
    ((List.mergeSort_perm t.entries _).map (·.1)).nodup_iff.mpr t.distinct⟩

/-- The value under exactly this name. -/
def find? (t : HeaderTable) (name : String) : Option HeaderValue :=
  (t.entries.find? fun e => e.1 == name).map (·.2)

/-- The first text under a name, or else under the first name that is the same
up to case. -/
def get? (t : HeaderTable) (name : String) : Option String :=
  match t.find? name with
  | some value => value.first
  | none => (t.entries.find? fun e => Header.same e.1 name).bind fun e => e.2.first

end HeaderTable

/-- The headers of a delivery. -/
inductive Headers where
  /-- A list of pairs, in which a name may occur more than once. -/
  | pairs (entries : List (String × HeaderValue))
  /-- So many pairs. -/
  | array (n : Nat) (entries : Vector (String × HeaderValue) n)
  /-- A table with one value for each name. -/
  | table (t : HeaderTable)
  /-- The fields of an HTTP message. -/
  | fields (m : Fields)
  /-- Headers that are lent. -/
  | lent (headers : Headers)

namespace Headers

/-- The value of the first pair with exactly this name, or else of the first
with one that is the same up to case. -/
def pairValue? {α : Type} (entries : List (String × α)) (name : String) : Option α :=
  ((entries.find? fun e => e.1 == name).or (entries.find? fun e => Header.same e.1 name)).map (·.2)

/-- The first text of the header of this name. -/
def get? (headers : Headers) (name : String) : Option String :=
  match headers with
  | .pairs entries => (pairValue? entries name).bind HeaderValue.first
  | .array _ entries => (pairValue? entries.toList name).bind HeaderValue.first
  | .table t => t.get? name
  | .fields m => m.get? name
  | .lent lender => lender.get? name

/-- A list of pairs of plain texts. -/
def ofTexts (entries : List (String × String)) : Headers :=
  .pairs (entries.map fun e => (e.1, .text e.2))

end Headers
end SignedHooks
