/-
# The verdict on a delivery

A verifier comes to one of eight verdicts, and each says all that was found on
the way to it (`Verifier.Verdict`, `Verifier.judge_verdict`). Put as seven
conditions in an order (`Verifier.Check`): a delivery is accepted exactly when
all of them hold, and otherwise the code of the refusal is that of the first
one that does not (`Verifier.verify_eq_first_failing`).

Key definitions: `Verifier.Verdict`, `Verifier.Call`, `Verifier.Check`,
`Verifier.Check.Holds`, `Verifier.Check.FirstFailing`.
Key theorems: `Verifier.judge_verdict`, `Verifier.Call.verify_of_read`,
`Verifier.Call.verify_of_read_error`, `Verifier.verify_outcome`,
`Verifier.verify_eq_first_failing`.
-/
import Mathlib.Algebra.Order.Group.Unbundled.Int
import SignedHooks.Proofs.Body
import SignedHooks.Proofs.Signature
import SignedHooks.Proofs.Timestamp
import SignedHooks.Verifier

namespace SignedHooks

/-- The header `name` is there with the value `value`, which is not empty. -/
def Headers.Filled (headers : Headers) (name value : String) : Prop :=
  headers.get? name = some value ∧ value ≠ ""

theorem Headers.Filled.unique {headers : Headers} {name a b : String}
    (ha : headers.Filled name a) (hb : headers.Filled name b) : a = b :=
  Option.some.inj (ha.1.symm.trans hb.1)

/-- The text begins with the marker of the scheme. -/
def Signature.Marked (s : String) : Prop :=
  ∃ rest, s = marker ++ rest

namespace Verifier

/-- The two times are at most `tolerance` apart, or the tolerance is negative. -/
def Near (tolerance now stamp : Int) : Prop :=
  tolerance < 0 ∨ |now - stamp| ≤ tolerance

instance (tolerance now stamp : Int) : Decidable (Near tolerance now stamp) :=
  inferInstanceAs (Decidable (_ ∨ _))

theorem filled?_eq_some_iff {headers : Headers} {name value : String} :
    filled? headers name = some value ↔ headers.Filled name value := by
  simp [filled?, Headers.Filled, Option.filter_eq_some_iff]

theorem filled?_eq_none_iff {headers : Headers} {name : String} :
    filled? headers name = none ↔ ∀ value, ¬ headers.Filled name value := by
  constructor
  · intro h value hv
    rw [filled?_eq_some_iff.mpr hv] at h
    cases h
  · intro h
    cases hf : filled? headers name with
    | none => rfl
    | some value => exact absurd (filled?_eq_some_iff.mp hf) (h value)

theorem isMarked_iff (s : String) : isMarked s = true ↔ Signature.Marked s := by
  rw [isMarked, List.isPrefixOf_iff_prefix]
  constructor
  · rintro ⟨rest, h⟩
    refine ⟨String.ofList rest, String.toList_inj.mp ?_⟩
    rw [String.toList_append, String.toList_ofList, h]
  · rintro ⟨rest, rfl⟩
    exact ⟨rest.toList, String.toList_append.symm⟩

/-- On times of the range the check is what it says over all integers. -/
theorem inTime_iff {tolerance now stamp : Int} (hnow : Signed64.Fits now)
    (hstamp : Signed64.Fits stamp) :
    inTime tolerance now stamp = true ↔ Near tolerance now stamp := by
  rw [inTime, Signed64.gap_eq_natAbs hnow hstamp, Near, Int.abs_eq_natAbs, Bool.or_eq_true,
    decide_eq_true_eq, decide_eq_true_eq]
  omega

/-- The headers carry a signature with the marker and a timestamp. -/
structure Headed (headers : Headers) (s ts : String) : Prop where
  /-- The signature is there. -/
  signature : headers.Filled Header.signature s
  /-- The timestamp is there. -/
  timestamp : headers.Filled Header.timestamp ts
  /-- The signature has the marker. -/
  marked : Signature.Marked s

/-- The headers are there, and the timestamp says a time that is near enough. -/
structure Timely (tolerance now : Int) (headers : Headers) (s ts : String) : Prop extends
    Headed headers s ts where
  /-- The timestamp says a time, which is near. -/
  read_near : ∃ t, Timestamp.read ts = .ok t ∧ Near tolerance now t

/-- What a verifier says of a delivery, with all that it found before. -/
inductive Verdict (v : Verifier) (now : Int) (body : Body) (headers : Headers) :
    Except Refusal String → Prop where
  /-- There is no signature. -/
  | missingSignature : (∀ s, ¬ headers.Filled Header.signature s) →
      Verdict v now body headers (.error .missingSignature)
  /-- There is no timestamp. -/
  | missingTimestamp {s : String} : headers.Filled Header.signature s →
      (∀ ts, ¬ headers.Filled Header.timestamp ts) →
      Verdict v now body headers (.error .missingTimestamp)
  /-- The signature has no marker. -/
  | invalidSignatureFormat {s ts : String} : headers.Filled Header.signature s →
      headers.Filled Header.timestamp ts → ¬ Signature.Marked s →
      Verdict v now body headers (.error .invalidSignatureFormat)
  /-- The timestamp says no time. -/
  | invalidTimestamp {s ts : String} {fault : Timestamp.Fault} : Headed headers s ts →
      Timestamp.read ts = .error fault →
      Verdict v now body headers (.error (.invalidTimestamp fault))
  /-- The time is too far away. -/
  | timestampOutOfRange {s ts : String} {t : Int} : Headed headers s ts →
      Timestamp.read ts = .ok t → ¬ Near v.tolerance now t →
      Verdict v now body headers (.error .timestampOutOfRange)
  /-- The body is no text. -/
  | invalidBody {s ts : String} {fault : Utf8.Fault} : Timely v.tolerance now headers s ts →
      body.decode = .error (.invalidBody fault) →
      Verdict v now body headers (.error (.invalidBody fault))
  /-- The signature is another one. -/
  | signatureMismatch {s ts b : String} : Timely v.tolerance now headers s ts →
      body.decode = .ok b → s ≠ Signature.compute v.secret ts b →
      Verdict v now body headers (.error .signatureMismatch)
  /-- The delivery is accepted. -/
  | accepted {s ts b : String} : Timely v.tolerance now headers s ts →
      body.decode = .ok b → s = Signature.compute v.secret ts b →
      Verdict v now body headers (.ok b)

/-- With the headers there, what remains to be checked is the time and the signature. -/
theorem judge_of_headed {headers : Headers} {s ts : String} (h : Headed headers s ts)
    (v : Verifier) (now : Int) (body : Body) : v.judge now body headers =
      (checkTime v.tolerance now ts >>= fun _ => checkSignature v.secret s ts body) := by
  unfold judge
  simp only [filled?_eq_some_iff.mpr h.signature, filled?_eq_some_iff.mpr h.timestamp,
    if_pos ((isMarked_iff s).mpr h.marked)]

/-- A timestamp that says a time is judged by its distance from the clock. -/
theorem checkTime_of_read {tolerance now stamp : Int} {ts : String} (hnow : Signed64.Fits now)
    (hr : Timestamp.read ts = .ok stamp) : checkTime tolerance now ts =
      if Near tolerance now stamp then .ok () else .error .timestampOutOfRange := by
  have hnear : inTime tolerance now stamp = true ↔ Near tolerance now stamp :=
    inTime_iff hnow (Timestamp.fits_of_read hr)
  rw [checkTime, hr]
  simp only [hnear]

/-- The signature of the timestamp and the body is the right one. -/
theorem checkSignature_compute {secret ts b : String} {body : Body} (hd : body.decode = .ok b) :
    checkSignature secret (Signature.compute secret ts b) ts body = .ok b := by
  simp only [checkSignature, hd, bind, Except.bind, Signature.agree_self, ↓reduceIte]

/-- Only the body and the signature are refused at the end. -/
theorem checkSignature_error {secret s ts : String} {body : Body} {refusal : Refusal}
    (h : checkSignature secret s ts body = .error refusal) :
    (∃ fault, refusal = .invalidBody fault) ∨ refusal = .signatureMismatch := by
  unfold checkSignature at h
  cases hd : body.decode with
  | error bad =>
    rw [hd] at h
    cases h
    exact .inl (Body.decode_error hd)
  | ok b =>
    by_cases ha : Signature.agree (Signature.compute secret ts b) s = true
    · simp only [hd, bind, Except.bind, if_pos ha] at h
      cases h
    · simp only [hd, bind, Except.bind, if_neg ha] at h
      exact .inr (Except.error.inj h).symm

theorem checkSignature_verdict {v : Verifier} {now : Int} {headers : Headers} {s ts : String}
    (h : Timely v.tolerance now headers s ts) (body : Body) :
    Verdict v now body headers (checkSignature v.secret s ts body) := by
  unfold checkSignature
  cases hd : body.decode with
  | error refusal =>
    obtain ⟨fault, rfl⟩ := Body.decode_error hd
    exact .invalidBody h hd
  | ok b =>
    have hagree := Signature.agree_iff (Signature.compute v.secret ts b) s
    by_cases ha : Signature.agree (Signature.compute v.secret ts b) s = true
    · simp only [bind, Except.bind, if_pos ha]
      exact .accepted h hd (hagree.mp ha)
    · simp only [bind, Except.bind, if_neg ha]
      exact .signatureMismatch h hd (mt hagree.mpr ha)

/-- A verifier comes to one of the verdicts. -/
theorem judge_verdict (v : Verifier) {now : Int} (hnow : Signed64.Fits now) (body : Body)
    (headers : Headers) : Verdict v now body headers (v.judge now body headers) := by
  cases hs : filled? headers Header.signature with
  | none =>
    rw [judge, hs]
    exact .missingSignature (filled?_eq_none_iff.mp hs)
  | some s =>
    cases hts : filled? headers Header.timestamp with
    | none =>
      rw [judge, hs, hts]
      exact .missingTimestamp (filled?_eq_some_iff.mp hs) (filled?_eq_none_iff.mp hts)
    | some ts =>
      by_cases hm : isMarked s = true
      · have hhead : Headed headers s ts :=
          ⟨filled?_eq_some_iff.mp hs, filled?_eq_some_iff.mp hts, (isMarked_iff s).mp hm⟩
        rw [judge_of_headed hhead]
        cases hr : Timestamp.read ts with
        | error fault =>
          rw [checkTime, hr]
          exact .invalidTimestamp hhead hr
        | ok t =>
          rw [checkTime_of_read hnow hr]
          by_cases hn : Near v.tolerance now t
          · rw [if_pos hn]
            exact checkSignature_verdict ⟨hhead, t, hr, hn⟩ body
          · rw [if_neg hn]
            exact .timestampOutOfRange hhead hr hn
      · rw [judge, hs, hts]
        simp only [if_neg hm]
        exact .invalidSignatureFormat (filled?_eq_some_iff.mp hs) (filled?_eq_some_iff.mp hts)
          (mt (isMarked_iff s).mpr hm)

/-! ### The conditions, in their order -/

/-- What a verifier is asked: a delivery, at an instant, with overrides. -/
structure Call where
  /-- The verifier. -/
  verifier : Verifier
  /-- What its clock says. -/
  now : Instant
  /-- The body of the delivery. -/
  body : Body
  /-- The headers of the delivery. -/
  headers : Headers
  /-- What the call uses instead of what the verifier has. -/
  overrides : Overrides

namespace Call

/-- The secret of a call: the one given with it, even an empty one, or else the
verifier's. -/
def secret (c : Call) : String :=
  match c.overrides.secret with
  | some secret => secret
  | none => c.verifier.secret

/-- The tolerance of a call: the one given with it, or else the verifier's. -/
def tolerance (c : Call) : Int :=
  match c.overrides.tolerance with
  | some tolerance => tolerance
  | none => c.verifier.tolerance

/-- Nothing if the delivery is accepted, or the refusal. -/
def verify (c : Call) : Except Refusal Unit :=
  c.verifier.verify c.now c.body c.headers c.overrides

/-- Whether the delivery is accepted. -/
def accepts (c : Call) : Bool :=
  (c.verifier.accepts c.now c.body c.headers c.overrides).value

theorem override_eq (c : Call) : c.verifier.override c.overrides = ⟨c.secret, c.tolerance⟩ := by
  obtain ⟨v, now, body, headers, secret, tolerance⟩ := c
  cases secret <;> cases tolerance <;> rfl

/-- A call is what a verifier with its secret and its tolerance says. -/
theorem verify_eq (c : Call) : c.verify =
    (judge ⟨c.secret, c.tolerance⟩ c.now.millis c.body c.headers).map fun _ => () := by
  rw [verify, Verifier.verify, c.override_eq]

/-- The check without a reason says yes exactly to what is accepted. -/
theorem accepts_iff (c : Call) : c.accepts = true ↔ c.verify = .ok () := by
  unfold accepts Verifier.accepts verify
  cases c.verifier.verify c.now c.body c.headers c.overrides with
  | error refusal => exact ⟨fun h => absurd h Bool.false_ne_true, fun h => by cases h⟩
  | ok _ => exact ⟨fun _ => rfl, fun _ => rfl⟩

/-- With the headers there, a timestamp that says no time is refused as such. -/
theorem verify_of_read_error {c : Call} {s ts : String} {fault : Timestamp.Fault}
    (h : Headed c.headers s ts) (hr : Timestamp.read ts = .error fault) :
    c.verify = .error (.invalidTimestamp fault) := by
  rw [c.verify_eq, judge_of_headed h, checkTime, hr]
  rfl

/-- With the headers there, a timestamp that says a time is out of range, or all
depends on the signature. -/
theorem verify_of_read {c : Call} {s ts : String} {stamp : Int} (h : Headed c.headers s ts)
    (hr : Timestamp.read ts = .ok stamp) : c.verify =
      if Near c.tolerance c.now.millis stamp then
        (checkSignature c.secret s ts c.body).map fun _ => ()
      else .error .timestampOutOfRange := by
  rw [c.verify_eq, judge_of_headed h, checkTime_of_read c.now.fits_millis hr]
  by_cases hn : Near c.tolerance c.now.millis stamp
  · rw [if_pos hn, if_pos hn]
    rfl
  · rw [if_neg hn, if_neg hn]
    rfl

/-- A delivery that is accepted has the signature of its timestamp and its text. -/
theorem exists_of_verify_ok {c : Call} (h : c.verify = .ok ()) :
    ∃ s ts b, Timely c.tolerance c.now.millis c.headers s ts ∧ c.body.decode = .ok b ∧
      s = Signature.compute c.secret ts b := by
  have hv := judge_verdict ⟨c.secret, c.tolerance⟩ c.now.fits_millis c.body c.headers
  rw [c.verify_eq] at h
  generalize judge ⟨c.secret, c.tolerance⟩ c.now.millis c.body c.headers = result at hv h
  cases hv with
  | accepted htime hd hs => exact ⟨_, _, _, htime, hd, hs⟩
  | _ => cases h

end Call

/-- What must hold of a delivery. -/
inductive Check where
  /-- There is a signature. -/
  | signed
  /-- There is a timestamp. -/
  | dated
  /-- The signature has the marker. -/
  | marked
  /-- The timestamp says a time. -/
  | readable
  /-- The time is near enough. -/
  | near
  /-- The body is a text. -/
  | decoded
  /-- The signature is that of the timestamp and the body. -/
  | matching
  deriving DecidableEq, Repr

namespace Check

/-- The place of a condition in the order. -/
def rank : Check → Nat
  | .signed => 1
  | .dated => 2
  | .marked => 3
  | .readable => 4
  | .near => 5
  | .decoded => 6
  | .matching => 7

/-- The code of the refusal if the condition is the first one that fails. -/
def code : Check → Refusal.Code
  | .signed => .missingSignature
  | .dated => .missingTimestamp
  | .marked => .invalidSignatureFormat
  | .readable => .invalidTimestamp
  | .near => .timestampOutOfRange
  | .decoded => .invalidBody
  | .matching => .signatureMismatch

/-- The condition holds of a call. -/
def Holds (c : Call) : Check → Prop
  | .signed => ∃ s, c.headers.Filled Header.signature s
  | .dated => ∃ ts, c.headers.Filled Header.timestamp ts
  | .marked => ∃ s, c.headers.Filled Header.signature s ∧ Signature.Marked s
  | .readable => ∃ ts t, c.headers.Filled Header.timestamp ts ∧ Timestamp.read ts = .ok t
  | .near => ∃ ts t, c.headers.Filled Header.timestamp ts ∧ Timestamp.read ts = .ok t ∧
      Near c.tolerance c.now.millis t
  | .decoded => ∃ b, c.body.decode = .ok b
  | .matching => ∃ s ts b, c.headers.Filled Header.signature s ∧
      c.headers.Filled Header.timestamp ts ∧ c.body.decode = .ok b ∧
      s = Signature.compute c.secret ts b

/-- The condition fails of a call, and all before it hold. -/
def FirstFailing (c : Call) (k : Check) : Prop :=
  ¬ k.Holds c ∧ ∀ j : Check, j.rank < k.rank → j.Holds c

theorem rank_injective {j k : Check} (h : j.rank = k.rank) : j = k := by
  cases j <;> cases k <;> first | rfl | exact absurd h (by decide)

theorem eq_or_rank_lt {j k : Check} (h : j.rank < k.rank + 1) : j = k ∨ j.rank < k.rank := by
  rcases Nat.lt_or_ge j.rank k.rank with hlt | hge
  · exact .inr hlt
  · exact .inl (rank_injective (Nat.le_antisymm (Nat.le_of_lt_succ h) hge))

/-- At most one condition is the first that fails. -/
theorem FirstFailing.unique {c : Call} {j k : Check} (hj : j.FirstFailing c)
    (hk : k.FirstFailing c) : j = k := by
  rcases Nat.lt_trichotomy j.rank k.rank with h | h | h
  · exact absurd (hk.2 j h) hj.1
  · exact rank_injective h
  · exact absurd (hj.2 k h) hk.1

end Check

theorem Headed.holds {c : Call} {s ts : String} (h : Headed c.headers s ts) :
    ∀ k : Check, k.rank < Check.readable.rank → k.Holds c
  | .signed, _ => ⟨s, h.signature⟩
  | .dated, _ => ⟨ts, h.timestamp⟩
  | .marked, _ => ⟨s, h.signature, h.marked⟩

theorem Timely.holds {c : Call} {s ts : String}
    (h : Timely c.tolerance c.now.millis c.headers s ts) :
    ∀ k : Check, k.rank < Check.decoded.rank → k.Holds c
  | .signed, _ => h.toHeaded.holds .signed (by decide)
  | .dated, _ => h.toHeaded.holds .dated (by decide)
  | .marked, _ => h.toHeaded.holds .marked (by decide)
  | .readable, _ =>
    let ⟨t, hr, _⟩ := h.read_near
    ⟨ts, t, h.timestamp, hr⟩
  | .near, _ =>
    let ⟨t, hr, hn⟩ := h.read_near
    ⟨ts, t, h.timestamp, hr, hn⟩

/-! ### The first condition that fails -/

section

variable {c : Call} {s ts : String}

theorem firstFailing_signed (hs : ∀ s, ¬ c.headers.Filled Header.signature s) :
    Check.signed.FirstFailing c := by
  refine ⟨?_, ?_⟩
  · rintro ⟨s, h⟩
    exact hs s h
  · intro j hj
    cases j <;> exact absurd hj (by decide)

theorem firstFailing_dated (hs : c.headers.Filled Header.signature s)
    (hts : ∀ ts, ¬ c.headers.Filled Header.timestamp ts) : Check.dated.FirstFailing c := by
  refine ⟨?_, ?_⟩
  · rintro ⟨ts, h⟩
    exact hts ts h
  · intro j hj
    cases j with
    | signed => exact ⟨s, hs⟩
    | _ => exact absurd hj (by decide)

theorem firstFailing_marked (hs : c.headers.Filled Header.signature s)
    (hts : c.headers.Filled Header.timestamp ts) (hm : ¬ Signature.Marked s) :
    Check.marked.FirstFailing c := by
  refine ⟨?_, ?_⟩
  · rintro ⟨s', h, hm'⟩
    exact hm (h.unique hs ▸ hm')
  · intro j hj
    cases j with
    | signed => exact ⟨s, hs⟩
    | dated => exact ⟨ts, hts⟩
    | _ => exact absurd hj (by decide)

theorem firstFailing_readable {fault : Timestamp.Fault} (h : Headed c.headers s ts)
    (hr : Timestamp.read ts = .error fault) : Check.readable.FirstFailing c := by
  refine ⟨?_, h.holds⟩
  rintro ⟨ts', t, hts, hr'⟩
  rw [hts.unique h.timestamp, hr] at hr'
  cases hr'

theorem firstFailing_near {t : Int} (h : Headed c.headers s ts) (hr : Timestamp.read ts = .ok t)
    (hfar : ¬ Near c.tolerance c.now.millis t) : Check.near.FirstFailing c := by
  refine ⟨?_, ?_⟩
  · rintro ⟨ts', t', hts, hr', hnear⟩
    rw [hts.unique h.timestamp, hr] at hr'
    cases hr'
    exact hfar hnear
  · intro j hj
    rcases Check.eq_or_rank_lt (k := .readable) hj with rfl | hj
    · exact ⟨ts, t, h.timestamp, hr⟩
    · exact h.holds j hj

theorem firstFailing_decoded {refusal : Refusal}
    (h : Timely c.tolerance c.now.millis c.headers s ts) (hd : c.body.decode = .error refusal) :
    Check.decoded.FirstFailing c := by
  refine ⟨?_, h.holds⟩
  rintro ⟨b, hd'⟩
  rw [hd] at hd'
  cases hd'

theorem firstFailing_matching {b : String} (h : Timely c.tolerance c.now.millis c.headers s ts)
    (hd : c.body.decode = .ok b) (hne : s ≠ Signature.compute c.secret ts b) :
    Check.matching.FirstFailing c := by
  refine ⟨?_, ?_⟩
  · rintro ⟨s', ts', b', hs, hts, hd', heq⟩
    rw [hd] at hd'
    cases hd'
    rw [hs.unique h.signature, hts.unique h.timestamp] at heq
    exact hne heq
  · intro j hj
    rcases Check.eq_or_rank_lt (k := .decoded) hj with rfl | hj
    · exact ⟨b, hd⟩
    · exact h.holds j hj

theorem holds_of_matching {b : String} (h : Timely c.tolerance c.now.millis c.headers s ts)
    (hd : c.body.decode = .ok b) (heq : s = Signature.compute c.secret ts b) (k : Check) :
    k.Holds c := by
  by_cases hk : k.rank < Check.decoded.rank
  · exact h.holds k hk
  · cases k with
    | decoded => exact ⟨b, hd⟩
    | matching => exact ⟨s, ts, b, h.signature, h.timestamp, hd, heq⟩
    | _ => exact absurd (by decide) hk

end

/-- A call ends with all conditions met, or with the refusal that goes with the
first one that is not. -/
theorem verify_outcome (c : Call) :
    (c.verify = .ok () ∧ ∀ k : Check, k.Holds c) ∨
      ∃ r k, c.verify = .error r ∧ r.code = Check.code k ∧ k.FirstFailing c := by
  have hv := judge_verdict ⟨c.secret, c.tolerance⟩ c.now.fits_millis c.body c.headers
  rw [c.verify_eq]
  generalize judge ⟨c.secret, c.tolerance⟩ c.now.millis c.body c.headers = result at hv
  cases hv with
  | missingSignature hs => exact .inr ⟨_, .signed, rfl, rfl, firstFailing_signed hs⟩
  | missingTimestamp hs hts => exact .inr ⟨_, .dated, rfl, rfl, firstFailing_dated hs hts⟩
  | invalidSignatureFormat hs hts hm =>
    exact .inr ⟨_, .marked, rfl, rfl, firstFailing_marked hs hts hm⟩
  | invalidTimestamp h hr => exact .inr ⟨_, .readable, rfl, rfl, firstFailing_readable h hr⟩
  | timestampOutOfRange h hr hfar => exact .inr ⟨_, .near, rfl, rfl, firstFailing_near h hr hfar⟩
  | invalidBody h hd => exact .inr ⟨_, .decoded, rfl, rfl, firstFailing_decoded h hd⟩
  | signatureMismatch h hd hne =>
    exact .inr ⟨_, .matching, rfl, rfl, firstFailing_matching h hd hne⟩
  | accepted h hd heq => exact .inl ⟨rfl, holds_of_matching h hd heq⟩

/-- **The decision.** A delivery is accepted exactly when all the conditions
hold, and there is a refusal with a code exactly when the first condition that
fails has this code; the code of a body that is no event is never one of them.
The check without a reason says yes exactly to what is accepted. -/
theorem verify_eq_first_failing (c : Call) :
    (c.verify = .ok () ↔ ∀ k : Check, k.Holds c) ∧
    (∀ code, (∃ r, c.verify = .error r ∧ r.code = code) ↔
      ∃ k : Check, k.FirstFailing c ∧ k.code = code) ∧
    (∀ r, c.verify = .error r → r.code ≠ .invalidJson) ∧
    (c.accepts = true ↔ c.verify = .ok ()) := by
  refine ⟨?_, ?_, ?_, ?_⟩
  · rcases verify_outcome c with ⟨hok, hall⟩ | ⟨r, k, herr, _, hfirst⟩
    · exact ⟨fun _ => hall, fun _ => hok⟩
    · refine ⟨fun hok => ?_, fun hall => absurd (hall k) hfirst.1⟩
      rw [herr] at hok
      cases hok
  · intro code
    rcases verify_outcome c with ⟨hok, hall⟩ | ⟨r, k, herr, hcode, hfirst⟩
    · constructor
      · rintro ⟨r, herr, _⟩
        rw [hok] at herr
        cases herr
      · rintro ⟨k, hfirst, _⟩
        exact absurd (hall k) hfirst.1
    · constructor
      · rintro ⟨r', herr', rfl⟩
        rw [herr] at herr'
        cases herr'
        exact ⟨k, hfirst, hcode.symm⟩
      · rintro ⟨k', hfirst', rfl⟩
        exact ⟨r, herr, by rw [hcode, hfirst.unique hfirst']⟩
  · intro r hr
    rcases verify_outcome c with ⟨hok, _⟩ | ⟨r', k, herr, hcode, _⟩
    · rw [hok] at hr
      cases hr
    · rw [herr] at hr
      cases hr
      rw [hcode]
      cases k <;> decide
  · exact c.accepts_iff

end Verifier
end SignedHooks
