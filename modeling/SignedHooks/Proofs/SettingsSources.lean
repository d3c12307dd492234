/-
# Which source a setting comes from

A setting may be given by the command line and by the settings file, and for the
tolerance there is a default behind the two. The first source that gives anything is
the one that counts (`Settings.FirstGiven`): of the tolerance this is so whatever
number is given, and of the secret as well, but then an empty one is no secret. So
there are no settings exactly if no source gives a secret that is not empty, or if
the command line gives an empty one in front of a file that gives another
(`Settings.Shadowed`, `Settings.resolve_eq_error_iff`). The description of the
settings promises a failure for the former alone, which is what comes out whenever
the command line does not give an empty secret (`Settings.resolve_fails_iff`).

If there are settings, their secret is the first that is not empty, and the verifier
that they make answers as any other with the secret and the tolerance that the
sources give (`Settings.resolve_by_sources`).

Key definitions: `Settings.FirstGiven`, `Settings.secrets`, `Settings.tolerances`,
`Settings.Shadowed`.
Key theorems: `Settings.resolve_eq_ok_iff`, `Settings.resolve_eq_error_iff`,
`Settings.resolve_fails_iff`, `Settings.resolve_by_sources`.
-/
import SignedHooks.Settings

namespace SignedHooks
namespace Settings

open CommandLine (Invocation)

/-! ### The first source that gives anything -/

/-- What the first of some sources gives that gives anything. -/
inductive FirstGiven {α : Type} : List (Option α) → α → Prop where
  /-- The first source gives it. -/
  | here {a : α} {sources : List (Option α)} : FirstGiven (some a :: sources) a
  /-- The first source gives nothing. -/
  | there {a : α} {sources : List (Option α)} (h : FirstGiven sources a) :
    FirstGiven (none :: sources) a

section

variable {α : Type} {a b : α} {source : Option α} {sources : List (Option α)}

@[simp] theorem not_firstGiven_nil : ¬ FirstGiven [] a := nofun

@[simp] theorem firstGiven_some_iff : FirstGiven (some b :: sources) a ↔ a = b := by
  constructor
  · intro h
    cases h
    rfl
  · intro h
    rw [h]
    exact .here

@[simp] theorem firstGiven_none_iff : FirstGiven (none :: sources) a ↔ FirstGiven sources a := by
  constructor
  · intro h
    cases h with
    | there h => exact h
  · exact .there

theorem FirstGiven.unique (ha : FirstGiven sources a) (hb : FirstGiven sources b) : a = b := by
  induction ha with
  | here => exact (firstGiven_some_iff.mp hb).symm
  | there _ ih => exact ih (firstGiven_none_iff.mp hb)

/-- A source in front of others. -/
theorem firstGiven_cons_iff :
    FirstGiven (source :: sources) a ↔ source = some a ∨ source = none ∧ FirstGiven sources a := by
  cases source with
  | none => simp
  | some b => simp [eq_comm]

end

/-! ### The sources of the settings -/

/-- The sources of the secret. -/
def secrets (asked : Invocation) (file : Option File) : List (Option String) :=
  [asked.secret, file.bind File.secret]

/-- The sources of the tolerance. -/
def tolerances (asked : Invocation) (file : Option File) : List (Option Int) :=
  [asked.tolerance, file.bind File.tolerance, some Verifier.defaultTolerance]

/-- A source of the secret that gives none if it gives an empty one. -/
def filled (source : Option String) : Option String :=
  source.filter fun s => !s.isEmpty

/-- The command line gives an empty secret and the file one that is not. -/
def Shadowed (asked : Invocation) (file : Option File) : Prop :=
  asked.secret = some "" ∧ ∃ s, file.bind File.secret = some s ∧ s ≠ ""

variable {asked : Invocation} {file : Option File}

theorem filled_eq_some_iff {source : Option String} {s : String} :
    filled source = some s ↔ source = some s ∧ s ≠ "" := by
  unfold filled
  rw [Option.filter_eq_some_iff]
  simp

/-- A secret that is given first and not empty is the first that is not empty. -/
theorem FirstGiven.filled {sources : List (Option String)} {s : String}
    (h : FirstGiven sources s) (hs : s ≠ "") : FirstGiven (sources.map filled) s := by
  induction h with
  | here =>
    rw [List.map_cons, filled_eq_some_iff.mpr ⟨rfl, hs⟩]
    exact .here
  | there _ ih => exact .there (ih hs)

theorem secret?_eq_some_iff {s : String} :
    secret? asked file = some s ↔ FirstGiven (secrets asked file) s ∧ s ≠ "" := by
  unfold secret? secrets
  rw [Option.filter_eq_some_iff, Option.or_eq_some_iff, firstGiven_cons_iff, firstGiven_cons_iff]
  simp

theorem tolerance?_firstGiven (asked : Invocation) (file : Option File) :
    FirstGiven (tolerances asked file) (tolerance? asked file) := by
  unfold tolerances tolerance?
  rw [firstGiven_cons_iff, firstGiven_cons_iff]
  cases asked.tolerance with
  | some t => exact .inl rfl
  | none =>
    cases file.bind File.tolerance with
    | some t => exact .inr ⟨rfl, .inl rfl⟩
    | none => exact .inr ⟨rfl, .inr ⟨rfl, .here⟩⟩

/-! ### What settings there are -/

/-- The settings that the sources give, each from the first source that gives it. -/
theorem resolve_eq_ok_iff {s : Settings} :
    resolve asked file = .ok s ↔ FirstGiven (secrets asked file) s.secret ∧ s.secret ≠ "" ∧
      FirstGiven (tolerances asked file) s.tolerance ∧ s.verbose = asked.verbose := by
  have htolerance : FirstGiven (tolerances asked file) s.tolerance ↔
      s.tolerance = tolerance? asked file := by
    constructor
    · intro h
      exact h.unique (tolerance?_firstGiven asked file)
    · intro h
      rw [h]
      exact tolerance?_firstGiven asked file
  rw [htolerance, ← and_assoc, ← secret?_eq_some_iff]
  unfold resolve
  cases secret? asked file with
  | none => simp
  | some secret =>
    obtain ⟨_, _, _⟩ := s
    simp [eq_comm]

/-- Every secret that is given first is empty: this is so if all that are given are
empty, or if the one of the file is shadowed. -/
theorem forall_firstGiven_iff :
    (∀ s, FirstGiven (secrets asked file) s → s = "") ↔
      (∀ s, some s ∈ secrets asked file → s = "") ∨ Shadowed asked file := by
  unfold secrets Shadowed
  cases asked.secret with
  | none => simp [firstGiven_cons_iff, eq_comm]
  | some t =>
    by_cases ht : t = ""
    · subst ht
      have hsplit : (∀ s, file.bind File.secret = some s → s = "") ∨
          ∃ s, file.bind File.secret = some s ∧ s ≠ "" := by
        cases file.bind File.secret with
        | none => simp
        | some s => simp [Classical.em]
      simpa [eq_comm] using hsplit
    · simp [ht]

/-- There are no settings exactly if no source gives a secret that is not empty, or the
secret of the file is shadowed by an empty one. -/
theorem resolve_eq_error_iff {failure : Failure} :
    resolve asked file = .error failure ↔ failure = .missingSecret ∧
      ((∀ s, some s ∈ secrets asked file → s = "") ∨ Shadowed asked file) := by
  have hnone : secret? asked file = none ↔ ∀ s, FirstGiven (secrets asked file) s → s = "" := by
    rw [Option.eq_none_iff_forall_ne_some]
    refine forall_congr' fun s => ?_
    rw [Ne, secret?_eq_some_iff, not_and, Ne, Classical.not_not]
  rw [← forall_firstGiven_iff, ← hnone]
  unfold resolve
  cases secret? asked file with
  | none => simp [eq_comm]
  | some secret => simp

/-- Unless the secret of the file is shadowed there are no settings exactly if no source
gives a secret that is not empty. -/
theorem resolve_fails_iff (hclear : ¬ Shadowed asked file) :
    (∃ failure, resolve asked file = .error failure) ↔
      ∀ s, some s ∈ secrets asked file → s = "" := by
  constructor
  · intro ⟨failure, h⟩
    exact (resolve_eq_error_iff.mp h).2.resolve_right hclear
  · intro h
    exact ⟨.missingSecret, resolve_eq_error_iff.mpr ⟨rfl, .inl h⟩⟩

/-! ### The verifier of the settings -/

/-- The verifier of the settings is any one with the secret and the tolerance that the
sources give. -/
theorem verifier_eq_of_firstGiven {s : Settings} {v : Verifier} (h : resolve asked file = .ok s)
    (hsecret : FirstGiven ((secrets asked file).map filled) v.secret)
    (htolerance : FirstGiven (tolerances asked file) v.tolerance) : s.verifier = v := by
  obtain ⟨hs, hfilled, ht, _⟩ := resolve_eq_ok_iff.mp h
  have hsame : s.secret = v.secret := (hs.filled hfilled).unique hsecret
  have hnear : s.tolerance = v.tolerance := ht.unique htolerance
  unfold verifier
  rw [hsame, hnear]

/-- **Sources of the settings.** The only failure is that the secret is missing. It
comes exactly if no source gives a secret that is not empty, or an empty secret of the
command line shadows that of the file; so without a shadow exactly in the first case.
Otherwise the secret is the first that is not empty, the tolerance is the first that
is given, with the default behind all sources, and every delivery is answered at every
instant as by any verifier with the secret and the tolerance that the sources give. -/
theorem resolve_by_sources (asked : Invocation) (file : Option File) :
    (∀ failure, resolve asked file = .error failure ↔ failure = .missingSecret ∧
      ((∀ s, some s ∈ secrets asked file → s = "") ∨ Shadowed asked file)) ∧
    (¬ Shadowed asked file → ((∃ failure, resolve asked file = .error failure) ↔
      ∀ s, some s ∈ secrets asked file → s = "")) ∧
    ∀ s, resolve asked file = .ok s →
      s.secret ≠ "" ∧ FirstGiven ((secrets asked file).map filled) s.secret ∧
      FirstGiven (tolerances asked file) s.tolerance ∧ s.verbose = asked.verbose ∧
      ∀ v : Verifier, FirstGiven ((secrets asked file).map filled) v.secret →
        FirstGiven (tolerances asked file) v.tolerance →
        ∀ (now : Instant) (body : Body) (headers : Headers) (o : Verifier.Overrides),
          s.verifier.verify now body headers o = v.verify now body headers o ∧
          s.verifier.accepts now body headers o = v.accepts now body headers o ∧
          s.verifier.event now body headers o = v.event now body headers o ∧
          s.verifier.receive now body headers o = v.receive now body headers o := by
  refine ⟨fun _ => resolve_eq_error_iff, resolve_fails_iff, fun s hs => ?_⟩
  obtain ⟨hsecret, hfilled, htolerance, hverbose⟩ := resolve_eq_ok_iff.mp hs
  refine ⟨hfilled, hsecret.filled hfilled, htolerance, hverbose, ?_⟩
  intro v hv ht now body headers o
  have hsame : s.verifier = v := verifier_eq_of_firstGiven hs hv ht
  rw [hsame]
  exact ⟨rfl, rfl, rfl, rfl⟩

example : resolve ⟨.verify "b.json" [], none, some (-1), none, false⟩
    (some ⟨some "whsec_file", some 1000⟩) = .ok ⟨"whsec_file", -1, false⟩ := rfl

/-- An empty secret of the command line and another in the file: no source but the first
is asked, and there are no settings. -/
theorem resolve_shadowed :
    resolve ⟨.verify "b.json" [], some "", none, none, false⟩
      (some ⟨some "whsec_file", some 1000⟩) = .error .missingSecret ∧
    some "whsec_file" ∈ secrets ⟨.verify "b.json" [], some "", none, none, false⟩
      (some ⟨some "whsec_file", some 1000⟩) ∧
    FirstGiven ((secrets ⟨.verify "b.json" [], some "", none, none, false⟩
      (some ⟨some "whsec_file", some 1000⟩)).map filled) "whsec_file" := by
  refine ⟨rfl, by decide, ?_⟩
  exact .there .here

end Settings
end SignedHooks
