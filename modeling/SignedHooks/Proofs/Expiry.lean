/-
# A delivery that comes again and again

The same delivery may come to a verifier many times while its clock goes on. What
the clock does to the answer is only whether the time of the delivery is near: at
first it may lie ahead of the clock by more than the tolerance
(`Verifier.Early`), later it may lie behind it by more than that
(`Verifier.Expired`). The milliseconds of a clock never go back when the clock
does not, on either side of the epoch and beyond the range of 64 bits
(`Instant.millis_mono`); so a delivery that is no longer early stays so, and one
that has expired stays so (`Verifier.Early.of_later`, `Verifier.Expired.of_earlier`).

Hence the answers are at first that the time is out of range, then one and the same
other answer, then again that the time is out of range, and each of the three may
be missing (`Verifier.answers_eq_blocks`). Once expired, a delivery is never
accepted again. With a negative tolerance all answers are the same.

Key definitions: `Verifier.Early`, `Verifier.Expired`, `Verifier.Call.again`,
`Verifier.Call.untimed`, `Verifier.Call.answers`, `Verifier.Call.Dated`.
Key theorems: `Verifier.Call.window_cases`, `Verifier.answers_of_begun`,
`Verifier.answers_eq_blocks`.
-/
import SignedHooks.Proofs.Milliseconds
import SignedHooks.Proofs.ReplayWindow

namespace SignedHooks

namespace Verifier

/-! ### Before and behind the window -/

/-- The time of a delivery lies ahead of the clock by more than the tolerance. -/
def Early (tolerance now stamp : Int) : Prop :=
  0 ≤ tolerance ∧ tolerance < stamp - now

/-- The time of a delivery lies behind the clock by more than the tolerance. -/
def Expired (tolerance now stamp : Int) : Prop :=
  0 ≤ tolerance ∧ tolerance < now - stamp

theorem near_iff {tolerance now stamp : Int} :
    Near tolerance now stamp ↔ ¬ Early tolerance now stamp ∧ ¬ Expired tolerance now stamp := by
  unfold Near Early Expired
  rw [Int.abs_eq_natAbs]
  omega

/-- What is early was early before. -/
theorem Early.of_later {tolerance now later stamp : Int} (h : Early tolerance later stamp)
    (hle : now ≤ later) : Early tolerance now stamp := by
  unfold Early at *
  omega

/-- What has expired stays expired. -/
theorem Expired.of_earlier {tolerance now later stamp : Int} (h : Expired tolerance now stamp)
    (hle : now ≤ later) : Expired tolerance later stamp := by
  unfold Expired at *
  omega

/-! ### One delivery at many instants -/

namespace Call

/-- The same delivery at another instant. -/
def again (c : Call) (t : Instant) : Call :=
  { c with now := t }

/-- The same delivery without a check of the time. -/
def untimed (c : Call) : Call :=
  { c with overrides := c.overrides.withoutTolerance }

/-- What is answered to a delivery at some instants, one after another. -/
def answers (c : Call) (ts : List Instant) : List (Except Refusal Unit) :=
  ts.map fun t => (c.again t).verify

@[simp] theorem answers_nil (c : Call) : c.answers [] = [] := rfl

@[simp] theorem answers_cons (c : Call) (t : Instant) (ts : List Instant) :
    c.answers (t :: ts) = (c.again t).verify :: c.answers ts := rfl

theorem near_untimed (c : Call) (now stamp : Int) : Near c.untimed.tolerance now stamp := by
  have htolerance : c.untimed.tolerance = -1 := rfl
  rw [htolerance]
  exact .inl (by decide)

theorem untimed_verify_ne (c : Call) : c.untimed.verify ≠ .error .timestampOutOfRange := by
  have hverdict := judge_verdict ⟨c.untimed.secret, c.untimed.tolerance⟩ c.untimed.now.fits_millis
    c.untimed.body c.untimed.headers
  rw [c.untimed.verify_eq]
  generalize judge ⟨c.untimed.secret, c.untimed.tolerance⟩ c.untimed.now.millis c.untimed.body
    c.untimed.headers = result at hverdict
  intro h
  cases hverdict with
  | timestampOutOfRange _ _ hfar => exact hfar (c.near_untimed _ _)
  | _ => cases h

/-- Without its headers a delivery is answered alike at all times and with every tolerance. -/
theorem verify_of_not_headed {c : Call} (h : ¬ ∃ s ts, Headed c.headers s ts) (t : Instant) :
    (c.again t).verify = c.untimed.verify := by
  have hjudge : judge ⟨c.secret, c.tolerance⟩ t.millis c.body c.headers =
      judge ⟨c.secret, -1⟩ c.now.millis c.body c.headers := by
    cases hs : filled? c.headers Header.signature with
    | none => simp only [judge, hs]
    | some s =>
      cases hts : filled? c.headers Header.timestamp with
      | none => simp only [judge, hs, hts]
      | some ts =>
        have hmarked : ¬ isMarked s = true := fun hmarked => h ⟨s, ts,
          filled?_eq_some_iff.mp hs, filled?_eq_some_iff.mp hts, (isMarked_iff s).mp hmarked⟩
        simp only [judge, hs, hts, if_neg hmarked]
  have hagain : (c.again t).verify =
      (judge ⟨c.secret, c.tolerance⟩ t.millis c.body c.headers).map fun _ => () :=
    (c.again t).verify_eq
  rw [hagain, hjudge]
  exact c.untimed.verify_eq.symm

/-- The delivery is dated with `stamp`: the clock decides whether this is near, and nothing else
of the answer. -/
def Dated (c : Call) (stamp : Int) : Prop :=
  ∀ t, (c.again t).verify =
    if Near c.tolerance t.millis stamp then c.untimed.verify else .error .timestampOutOfRange

/-- With its headers, a delivery is dated with what its timestamp says. -/
theorem dated_of_read {c : Call} {s ts : String} {stamp : Int} (h : Headed c.headers s ts)
    (hr : Timestamp.read ts = .ok stamp) : c.Dated stamp := by
  intro t
  have hagain := verify_of_read (c := c.again t) h hr
  have huntimed := verify_of_read (c := c.untimed) h hr
  rw [if_pos (c.near_untimed _ _)] at huntimed
  rw [hagain, huntimed]
  rfl

/-- A delivery is dated, or the clock decides nothing. -/
theorem window_cases (c : Call) : (∀ t, (c.again t).verify = c.untimed.verify) ∨
    ∃ stamp, c.Dated stamp := by
  by_cases hheaded : ∃ s ts, Headed c.headers s ts
  · obtain ⟨s, ts, h⟩ := hheaded
    cases hr : Timestamp.read ts with
    | error fault =>
      refine .inl fun t => ?_
      have hagain := verify_of_read_error (c := c.again t) h hr
      have huntimed := verify_of_read_error (c := c.untimed) h hr
      rw [hagain, huntimed]
    | ok stamp => exact .inr ⟨stamp, dated_of_read h hr⟩
  · exact .inl (verify_of_not_headed hheaded)

end Call

/-! ### Along a clock that goes on -/

/-- The instants follow one another: the clock does not go back. -/
abbrev Forward (ts : List Instant) : Prop :=
  ts.Pairwise fun a b => a.offset ≤ b.offset

section

variable {c : Call} {stamp : Int}

/-- Once a delivery has expired, all answers are that its time is out of range. -/
theorem answers_of_expired (hdated : c.Dated stamp) {ts : List Instant}
    (h : ∀ t ∈ ts, Expired c.tolerance t.millis stamp) :
    c.answers ts = List.replicate ts.length (.error .timestampOutOfRange) := by
  unfold Call.answers
  rw [List.map_eq_replicate_iff]
  intro t ht
  have hfar : ¬ Near c.tolerance t.millis stamp := fun hnear => (near_iff.mp hnear).2 (h t ht)
  rw [hdated t, if_neg hfar]

/-- Once a delivery is no longer early, its window may go on for a while, and then
it has expired. -/
theorem answers_of_begun (hdated : c.Dated stamp) :
    ∀ {ts : List Instant}, Forward ts → (∀ t ∈ ts, ¬ Early c.tolerance t.millis stamp) →
    ∃ j k, c.answers ts = List.replicate j c.untimed.verify ++
      List.replicate k (.error .timestampOutOfRange)
  | [], _, _ => ⟨0, 0, rfl⟩
  | t :: ts, hts, hbegun => by
    obtain ⟨hhead, htail⟩ := List.pairwise_cons.mp hts
    obtain ⟨ht, hbegun⟩ := List.forall_mem_cons.mp hbegun
    by_cases hexpired : Expired c.tolerance t.millis stamp
    · have hall : ∀ u ∈ t :: ts, Expired c.tolerance u.millis stamp :=
        List.forall_mem_cons.mpr
          ⟨hexpired, fun u hu => hexpired.of_earlier (Instant.millis_mono (hhead u hu))⟩
      refine ⟨0, (t :: ts).length, ?_⟩
      rw [answers_of_expired hdated hall]
      rfl
    · obtain ⟨j, k, ih⟩ := answers_of_begun hdated htail hbegun
      have hnear : Near c.tolerance t.millis stamp := near_iff.mpr ⟨ht, hexpired⟩
      refine ⟨j + 1, k, ?_⟩
      rw [Call.answers_cons, hdated t, if_pos hnear, ih]
      rfl

/-- At first a delivery may be early. -/
theorem answers_of_window (hdated : c.Dated stamp) :
    ∀ {ts : List Instant}, Forward ts →
    ∃ i j k, c.answers ts = List.replicate i (.error .timestampOutOfRange) ++
      (List.replicate j c.untimed.verify ++ List.replicate k (.error .timestampOutOfRange))
  | [], _ => ⟨0, 0, 0, rfl⟩
  | t :: ts, hts => by
    by_cases hearly : Early c.tolerance t.millis stamp
    · obtain ⟨i, j, k, ih⟩ := answers_of_window hdated hts.of_cons
      have hfar : ¬ Near c.tolerance t.millis stamp := fun hnear => (near_iff.mp hnear).1 hearly
      refine ⟨i + 1, j, k, ?_⟩
      rw [Call.answers_cons, hdated t, if_neg hfar, ih]
      rfl
    · have hbegun : ∀ u ∈ t :: ts, ¬ Early c.tolerance u.millis stamp := by
        refine List.forall_mem_cons.mpr ⟨hearly, fun u hu hlater => hearly ?_⟩
        exact hlater.of_later (Instant.millis_mono ((List.pairwise_cons.mp hts).1 u hu))
      obtain ⟨j, k, hjk⟩ := answers_of_begun hdated hts hbegun
      exact ⟨0, j, k, hjk⟩

end

/-- **Expiry.** The answers to a delivery that comes again while the clock goes on
are three blocks, each of which may be empty: that its time is out of range, one
and the same other answer, and again that its time is out of range. The answer in
the middle is that of the same delivery without a check of the time. With a
negative tolerance there is nothing but the block in the middle. -/
theorem answers_eq_blocks {c : Call} {ts : List Instant} (hts : Forward ts) :
    (∃ i j k, c.answers ts = List.replicate i (.error .timestampOutOfRange) ++
      (List.replicate j c.untimed.verify ++
        List.replicate k (.error .timestampOutOfRange))) ∧
    c.untimed.verify ≠ .error .timestampOutOfRange ∧
    (c.tolerance < 0 → c.answers ts = List.replicate ts.length c.untimed.verify) := by
  refine ⟨?_, c.untimed_verify_ne, fun hneg => ?_⟩
  · rcases c.window_cases with hsame | ⟨stamp, hanswer⟩
    · refine ⟨0, ts.length, 0, ?_⟩
      have hall : c.answers ts = List.replicate ts.length c.untimed.verify :=
        List.map_eq_replicate_iff.mpr fun t _ => hsame t
      rw [hall]
      simp
    · exact answers_of_window hanswer hts
  · apply List.map_eq_replicate_iff.mpr
    intro t _
    rcases c.window_cases with hsame | ⟨stamp, hanswer⟩
    · exact hsame t
    · rw [hanswer, if_pos (.inl hneg)]

/-- A delivery dated with the epoch, as the clock passes by. -/
def epochDelivery : Call :=
  stampedCall "0" defaultTolerance ⟨false, 0, 0⟩

/-- A nanosecond before its window and in it, and a nanosecond before its end and at it. -/
def epochInstants : List Instant :=
  [⟨true, 300, 1000000⟩, ⟨true, 300, 999999⟩, ⟨false, 300, 999999⟩, ⟨false, 300, 1000000⟩]

theorem dated_epochDelivery : epochDelivery.Dated 0 :=
  Call.dated_of_read (headed_stampedCall (by decide) (by decide) _ _)
    (by decide : Timestamp.read "0" = .ok 0)

/-- It is early once, then in its window twice, and expired at last. -/
theorem answers_epoch :
    Forward epochInstants ∧
    epochDelivery.answers epochInstants =
      List.replicate 1 (.error .timestampOutOfRange) ++
        (List.replicate 2 epochDelivery.untimed.verify ++
          List.replicate 1 (.error .timestampOutOfRange)) ∧
    epochDelivery.untimed.verify ≠ .error .timestampOutOfRange := by
  have hforward : Forward epochInstants := by decide
  have hearly : ¬ Near epochDelivery.tolerance (Instant.millis ⟨true, 300, 1000000⟩) 0 := by decide
  have hopen : Near epochDelivery.tolerance (Instant.millis ⟨true, 300, 999999⟩) 0 := by decide
  have hlast : Near epochDelivery.tolerance (Instant.millis ⟨false, 300, 999999⟩) 0 := by decide
  have hexpired : ¬ Near epochDelivery.tolerance (Instant.millis ⟨false, 300, 1000000⟩) 0 := by
    decide
  refine ⟨hforward, ?_, (answers_eq_blocks hforward).2.1⟩
  simp only [epochInstants, Call.answers_cons, Call.answers_nil, dated_epochDelivery _]
  rw [if_neg hearly, if_pos hopen, if_pos hlast, if_neg hexpired]
  rfl

end Verifier
end SignedHooks
