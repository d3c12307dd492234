/-
# Headers that do not matter

A verifier looks up two headers and no others (`Verifier.judge_congr`), and each
is found among those of its name up to case (`Headers.pairValue?_filter`). So of
two collections of one shape that agree in the headers of these two names
(`Headers.SameSigning`) every verifier says the same, at every time and of every
body, whatever stands before, between and behind them
(`Verifier.outcome_of_sameSigning`). A list, an array and a message must have
these headers in one order; a table that is scanned by name orders them itself;
and in one that is scanned in any order they may stand in any, if no two of them
have the same name up to case.

Key definitions: `Header.isSigning`, `Header.signing`, `Headers.SameSigning`.
Key theorems: `Headers.pairValue?_filter`, `Headers.SameSigning.get?_eq`,
`Verifier.judge_congr`, `Verifier.outcome_of_sameSigning`.
-/
import Mathlib.Data.String.Basic
import SignedHooks.Proofs.HeaderLookup
import SignedHooks.Verifier

namespace SignedHooks

namespace Header

variable {α : Type}

/-- The name, up to case, of one of the two headers that a verifier reads. -/
def isSigning (name : String) : Bool :=
  same name signature || same name timestamp

/-- The headers that a verifier may read, in their order. -/
def signing (entries : List (String × α)) : List (String × α) :=
  entries.filter fun e => isSigning e.1

theorem isSigning_lower (name : String) : isSigning (lower name) = isSigning name := by
  simp only [isSigning, same, lower_lower]

theorem signing_lowered (entries : List (String × α)) :
    signing (lowered entries) = lowered (signing entries) := by
  simp only [signing, lowered, List.filter_map, Function.comp_def, isSigning_lower]

/-- A name that is one of the two up to case. -/
theorem isSigning_of_same {name stored : String} (hname : name = signature ∨ name = timestamp)
    (h : lower stored = lower name) : isSigning stored = true := by
  rw [isSigning, Bool.or_eq_true, same_iff, same_iff, h]
  rcases hname with rfl | rfl
  · exact .inl rfl
  · exact .inr rfl

end Header

open Header

/-! ### Looking up among the signing headers -/

/-- Entries of other names may be left out. -/
theorem Headers.pairValue?_filter {α : Type} {p : String → Bool} {name : String}
    (hp : ∀ stored, lower stored = lower name → p stored = true) (entries : List (String × α)) :
    pairValue? (entries.filter fun e => p e.1) name = pairValue? entries name := by
  have hexact : ∀ e : String × α, decide (p e.1 = true ∧ (e.1 == name) = true) = (e.1 == name) := by
    intro e
    rw [Bool.eq_iff_iff, decide_eq_true_eq]
    exact and_iff_right_of_imp fun h => hp e.1 (by rw [beq_iff_eq.mp h])
  have hcase : ∀ e : String × α,
      decide (p e.1 = true ∧ same e.1 name = true) = same e.1 name := by
    intro e
    rw [Bool.eq_iff_iff, decide_eq_true_eq]
    exact and_iff_right_of_imp fun h => hp e.1 ((same_iff _ _).mp h)
  simp only [pairValue?, List.find?_filter, hexact, hcase]

theorem Headers.pairValue?_signing {α : Type} {name : String}
    (hname : name = signature ∨ name = timestamp) (entries : List (String × α)) :
    pairValue? (signing entries) name = pairValue? entries name :=
  pairValue?_filter (fun _ => isSigning_of_same hname) entries

theorem Headers.pairValue?_lowered_signing {α : Type} {name : String}
    (hname : name = signature ∨ name = timestamp) (entries : List (String × α)) :
    pairValue? (lowered (signing entries)) (lower name) =
      pairValue? (lowered entries) (lower name) := by
  have hp : ∀ stored, lower stored = lower (lower name) → isSigning stored = true := by
    intro stored h
    rw [lower_lower] at h
    exact isSigning_of_same hname h
  rw [← signing_lowered, signing, pairValue?_filter hp]

namespace HeaderTable

theorem sorted_perm (t : HeaderTable) : t.sorted.entries.Perm t.entries :=
  List.mergeSort_perm t.entries _

theorem sorted_pairwise (t : HeaderTable) :
    t.sorted.entries.Pairwise fun a b => a.1 ≤ b.1 := by
  refine (List.pairwise_mergeSort ?_ ?_ t.entries).imp of_decide_eq_true
  · intro a b c hab hbc
    exact decide_eq_true (le_trans (of_decide_eq_true hab) (of_decide_eq_true hbc))
  · intro a b
    rw [Bool.or_eq_true, decide_eq_true_eq, decide_eq_true_eq]
    exact le_total a.1 b.1

/-- Tables with the same signing headers have them in one order when they are
sorted. -/
theorem signing_sorted_eq {t t' : HeaderTable}
    (hperm : (signing t.entries).Perm (signing t'.entries)) :
    signing t.sorted.entries = signing t'.sorted.entries := by
  have hown : (signing t.sorted.entries).Perm (signing t.entries) := t.sorted_perm.filter _
  have hown' : (signing t'.sorted.entries).Perm (signing t'.entries) := t'.sorted_perm.filter _
  refine List.Perm.eq_of_pairwise ?_ (t.sorted_pairwise.filter _) (t'.sorted_pairwise.filter _)
    (hown.trans (hperm.trans hown'.symm))
  -- two entries of one name are one entry, for both stand in the first table
  intro a b ha hb hab hba
  have ha' : a ∈ t.entries := List.mem_of_mem_filter (hown.mem_iff.mp ha)
  have hb' : b ∈ t.entries := List.mem_of_mem_filter (hperm.mem_iff.mpr (hown'.mem_iff.mp hb))
  exact List.inj_on_of_nodup_map t.distinct ha' hb' (le_antisymm hab hba)

end HeaderTable

namespace Headers

/-- Two collections of one shape that have the same signing headers; all their
other headers may differ. -/
inductive SameSigning : Headers → Headers → Prop where
  /-- Lists of pairs. -/
  | pairs {es es' : List (String × HeaderValue)} : signing es = signing es' →
      SameSigning (.pairs es) (.pairs es')
  /-- Arrays, which may differ in length. -/
  | array {n n' : Nat} {es : Vector (String × HeaderValue) n}
      {es' : Vector (String × HeaderValue) n'} : signing es.toList = signing es'.toList →
      SameSigning (.array n es) (.array n' es')
  /-- Tables that are scanned in the order of their names. -/
  | sorted {t t' : HeaderTable} : (signing t.entries).Perm (signing t'.entries) →
      SameSigning (.table t.sorted) (.table t'.sorted)
  /-- Tables that are scanned in any order. -/
  | unordered {t t' : HeaderTable} : Distinct (signing t.entries) →
      (signing t.entries).Perm (signing t'.entries) → SameSigning (.table t) (.table t')
  /-- The fields of messages. -/
  | fields {es es' : List (String × List UInt8)} {m m' : Fields} :
      Fields.empty.appendAll es = .ok m → Fields.empty.appendAll es' = .ok m' →
      signing es = signing es' → SameSigning (.fields m) (.fields m')
  /-- Headers that are lent. -/
  | lent {h h' : Headers} : SameSigning h h' → SameSigning (.lent h) (.lent h')

/-- The two headers are found with the same values. -/
theorem SameSigning.get?_eq {h h' : Headers} (hs : SameSigning h h') {name : String}
    (hname : name = signature ∨ name = timestamp) : h.get? name = h'.get? name := by
  induction hs with
  | pairs heq =>
    rw [get?, get?, ← pairValue?_signing hname, heq, pairValue?_signing hname]
  | array heq =>
    rw [get?, get?, ← pairValue?_signing hname, heq, pairValue?_signing hname]
  | sorted hperm =>
    rw [get?, get?, HeaderTable.get?_eq_pairValue?, HeaderTable.get?_eq_pairValue?,
      ← pairValue?_signing hname, HeaderTable.signing_sorted_eq hperm, pairValue?_signing hname]
  | unordered hd hperm =>
    have hlow := hperm.map fun e => (lower e.1, e.2)
    rw [get?, get?, HeaderTable.get?_eq_pairValue?, HeaderTable.get?_eq_pairValue?,
      ← pairValue?_signing hname, pairValue?_congr hd hlow (same_refl name),
      pairValue?_signing hname]
  | fields hm hm' heq =>
    rw [get?, get?, Fields.get?_eq_pairValue? hm, Fields.get?_eq_pairValue? hm',
      ← pairValue?_lowered_signing hname, heq, pairValue?_lowered_signing hname]
  | lent _ ih => exact ih

end Headers

/-! ### Verifiers -/

namespace Verifier

/-- What a verifier says depends on what it finds under two names. -/
theorem judge_congr {h h' : Headers} (hsig : h.get? signature = h'.get? signature)
    (hts : h.get? timestamp = h'.get? timestamp) (v : Verifier) (now : Int) (body : Body) :
    v.judge now body h = v.judge now body h' := by
  simp only [judge, filled?, hsig, hts]

/-- **Unrelated headers never matter.** Of two collections with the same signing
headers a verifier says the same, whatever the body, the time and the overrides:
the same verdict, the same event or refusal, and the same records. -/
theorem outcome_of_sameSigning {h h' : Headers} (hs : Headers.SameSigning h h') (v : Verifier)
    (now : Instant) (body : Body) (o : Overrides) :
    v.verify now body h o = v.verify now body h' o ∧
    v.accepts now body h o = v.accepts now body h' o ∧
    v.event now body h o = v.event now body h' o ∧
    v.receive now body h o = v.receive now body h' o := by
  have hjudge : ∀ v : Verifier, v.judge now.millis body h = v.judge now.millis body h' := fun v =>
    judge_congr (hs.get?_eq (.inl rfl)) (hs.get?_eq (.inr rfl)) v now.millis body
  have hverify : v.verify now body h o = v.verify now body h' o := by
    rw [verify, verify, hjudge]
  have hevent : v.event now body h o = v.event now body h' o := by
    rw [event, event, hjudge]
  refine ⟨hverify, ?_, hevent, ?_⟩
  · rw [accepts, accepts, hverify]
  · rw [receive, receive, hevent]

/-- A name with a long s, which is no letter of the signature's name, in front,
and an event without a value between the two headers. -/
theorem outcome_of_sameSigning_long_s :
    (ofSecret "whsec").verify ⟨false, 0, 0⟩ (.text "{}")
      (.pairs [("X-U\u017feSend-Signature", .text "v1="), ("x-usesend-signature", .text "v1=0"),
        (Header.event, .absent), (Header.timestamp, .text "0")]) .none =
    (ofSecret "whsec").verify ⟨false, 0, 0⟩ (.text "{}")
      (.pairs [("x-usesend-signature", .text "v1=0"), (Header.timestamp, .text "0")]) .none :=
  (outcome_of_sameSigning (.pairs rfl) _ _ _ _).1

end Verifier
end SignedHooks
