/-
# Which texts are events

Of a delivery that is accepted the body is an event exactly if its text is a JSON
object of which no more than 127 lists and objects are open at once and all
numbers have a finite double (`Event.Written`). Nothing else is asked: no tag,
and no shape that a tag implies. The event holds the keys of the object, each
with the value of its last member. All other texts are refused as no JSON, for a
reason that the message repeats (`Verifier.event_iff_written`).

The double of a number need not be the one nearest to it. So a number may be refused
whose nearest double is finite, and one may be taken for which that is not so
(`Verifier.event_not_by_nearest`).

Key definitions: `Event.Written`, `Verifier.Call.event`.
Key theorems: `Json.Tree.Finite.exists_means`, `Event.read_eq_ok_iff`,
`Event.Written.exists_event`, `Verifier.Call.event_of_verify`,
`Verifier.event_iff_written`.
-/
import SignedHooks.Proofs.Delivery
import SignedHooks.Proofs.JsonReading
import SignedHooks.Proofs.NumberRange

namespace SignedHooks

namespace Json

theorem exists_forall₂ {α β : Type} {M : α → β → Prop} : ∀ {as : List α},
    (∀ a ∈ as, ∃ b, M a b) → ∃ bs, List.Forall₂ M as bs
  | [], _ => ⟨[], .nil⟩
  | a :: as, h => by
    obtain ⟨b, hb⟩ := h a (List.mem_cons_self ..)
    obtain ⟨bs, hbs⟩ := exists_forall₂ fun a ha => h a (List.mem_cons_of_mem _ ha)
    exact ⟨b :: bs, .cons hb hbs⟩

/-- A tree whose numbers are all finite means some value. -/
theorem Tree.Finite.exists_means {t : Tree} (h : t.Finite) : ∃ v, t.Means v := by
  induction h with
  | null => exact ⟨_, .null⟩
  | boolean => exact ⟨_, .boolean⟩
  | number hn =>
    obtain ⟨x, hx⟩ := (Numeral.exists_number?_iff _).mpr hn
    exact ⟨_, .number hx⟩
  | text => exact ⟨_, .text⟩
  | array _ ih =>
    obtain ⟨vs, hvs⟩ := exists_forall₂ ih
    exact ⟨_, .array hvs⟩
  | object _ ih =>
    obtain ⟨ms, hms⟩ := exists_forall₂ fun m hm =>
      have ⟨v, hv⟩ := ih m hm
      ⟨(m.1, v), Keyed.mk hv⟩
    exact ⟨_, .object hms (lastWins_ofMembers ms)⟩

end Json

open Json (Document Tree)

namespace Event

/-- The text is that of an object with these members; at most 127 lists and objects
are open in it at once, and all its numbers have a finite double. -/
structure Written (text : String) (members : List (String × Tree)) : Prop where
  /-- The text is that of the object. -/
  document : Document text.toList (.object members)
  /-- At most 127 lists and objects are open at once. -/
  depth_le : (Tree.object members).depth ≤ 127
  /-- All numbers are finite. -/
  finite : (Tree.object members).Finite

/-- A text says an event exactly if an object within the bounds is written so, and
the event is what the object means. -/
theorem read_eq_ok_iff {text : String} {e : Event} : read text = .ok e ↔
    ∃ members, Written text members ∧ (Tree.object members).Means (.object e.members) := by
  have hroot : read text = .ok e ↔ Json.readRoot text.toList = .ok e.members := by
    rw [read, Json.readObject]
    cases Json.readRoot text.toList with
    | error fault => exact iff_of_false (fun h => by cases h) fun h => by cases h
    | ok m => exact ⟨fun h => by cases h; rfl, fun h => by cases h; rfl⟩
  rw [hroot, Json.readRoot_eq_ok_iff]
  constructor
  · rintro ⟨members, hdocument, hdepth, hfinite, hmeans⟩
    exact ⟨members, ⟨hdocument, hdepth, hfinite⟩, hmeans⟩
  · rintro ⟨members, ⟨hdocument, hdepth, hfinite⟩, hmeans⟩
    exact ⟨members, hdocument, hdepth, hfinite, hmeans⟩

/-- What is written within the bounds says an event, and the event is what the
object means. -/
theorem Written.exists_event {text : String} {members : List (String × Tree)}
    (h : Written text members) :
    ∃ e, read text = .ok e ∧ (Tree.object members).Means (.object e.members) := by
  obtain ⟨v, hmeans⟩ := h.finite.exists_means
  cases hmeans with
  | object hms hlast =>
    have hmeans := Tree.Means.object hms hlast
    exact ⟨⟨_⟩, read_eq_ok_iff.mpr ⟨members, h, hmeans⟩, hmeans⟩

end Event

namespace Verifier

/-- The event of a delivery, or the refusal. -/
def Call.event (c : Call) : Except Refusal Event :=
  c.verifier.event c.now c.body c.headers c.overrides

/-- Of a delivery that is accepted the event is what its text says. -/
theorem Call.event_of_verify {c : Call} {text : String} (hok : c.verify = .ok ())
    (htext : c.body.decode = .ok text) :
    c.event = (Event.read text).mapError .invalidJson := by
  have hverdict := judge_verdict ⟨c.secret, c.tolerance⟩ c.now.fits_millis c.body c.headers
  rw [c.verify_eq] at hok
  rw [event, Verifier.event, c.override_eq]
  generalize judge ⟨c.secret, c.tolerance⟩ c.now.millis c.body c.headers = result at *
  cases hverdict with
  | accepted _ hdecode _ =>
    cases htext.symm.trans hdecode
    rfl
  | _ => cases hok

/-- **Which texts are events.** Of a delivery that is accepted there is an event
exactly if its text is that of an object within the bounds, whatever the members
are. The event is what the object means, so it holds each key with the value of
its last member. Every other text is refused as no JSON, with a message that ends
with that of the cause. Of the numbers, if their powers are written with no more
than 31 bits, all are within the bounds that are below two to the power 1024 by more
than one part in 2^51, and none that are above by more. -/
theorem event_iff_written {c : Call} {text : String} (hok : c.verify = .ok ())
    (htext : c.body.decode = .ok text) :
    ((∃ e, c.event = .ok e) ↔ ∃ members, Event.Written text members) ∧
    (∀ e members, c.event = .ok e → Event.Written text members →
      (Tree.object members).Means (.object e.members)) ∧
    ((¬ ∃ members, Event.Written text members) → ∃ refusal, c.event = .error refusal ∧
      refusal.code.text = "INVALID_JSON" ∧ ∃ source, refusal.cause? = some source ∧
        refusal.message = "Webhook payload is not valid JSON: " ++ source) ∧
    ∀ cs n, Json.SpellsNumber cs n → |n.exponent.getD 0| ≤ Json.powerLimit →
      (n.magnitude < (1 - 1 / 2 ^ 51) * 2 ^ (1024 : Int) → n.Finite) ∧
      ((1 + 1 / 2 ^ 51) * 2 ^ (1024 : Int) ≤ n.magnitude → ¬ n.Finite) := by
  rw [Call.event_of_verify hok htext]
  cases hread : Event.read text with
  | ok e =>
    obtain ⟨members, hwritten, -⟩ := Event.read_eq_ok_iff.mp hread
    refine ⟨iff_of_true ⟨e, rfl⟩ ⟨members, hwritten⟩, ?_, fun hnone => ?_,
      fun _ _ hspells => hspells.finite_bounds⟩
    · intro e' members he' hwritten
      obtain ⟨e'', he'', hmeans⟩ := hwritten.exists_event
      cases he'
      cases hread.symm.trans he''
      exact hmeans
    · exact absurd ⟨members, hwritten⟩ hnone
  | error error =>
    have hnone : ¬ ∃ members, Event.Written text members := by
      rintro ⟨members, hwritten⟩
      obtain ⟨e, he, -⟩ := hwritten.exists_event
      cases hread.symm.trans he
    refine ⟨iff_of_false (fun ⟨e, he⟩ => by cases he) hnone, ?_, fun _ => ?_,
      fun _ _ hspells => hspells.finite_bounds⟩
    · intro e members he
      cases he
    · exact ⟨.invalidJson error, rfl, rfl, error.message, rfl, rfl⟩

/-- A text, signed and delivered at the epoch. -/
def epochCall (text : String) : Call :=
  ⟨ofSecret "whsec", ⟨false, 0, 0⟩, .text text,
    (((Signer.mk "whsec").signAt 0 text).label none none).toHeaders, .none⟩

theorem verify_epochCall (text : String) : (epochCall text).verify = .ok () := by
  have hcarried : SignedHeaders.Carried
      (((Signer.mk "whsec").signAt 0 text).label none none) (epochCall text).headers := .pairs
  have hsig := hcarried.get?_signature (Signature.printing_compute _ _ _)
  have hts := hcarried.get?_timestamp (Timestamp.printing_write 0)
  have hnow : (epochCall text).now.millis = 0 := (by decide : Instant.millis ⟨false, 0, 0⟩ = 0)
  have hnear : Near (epochCall text).tolerance (epochCall text).now.millis 0 := by
    rw [hnow]
    exact (by decide : Near defaultTolerance 0 0)
  exact (Call.verify_of_compute (by decide) hsig hts rfl).trans (if_pos hnear)

/-- An object with one key twice. -/
def repeatedText : String := "\x7b\"a\":1,\"a\":null\x7d"

theorem spellsText_a : Json.SpellsText ['"', 'a', '"'] "a" := by
  have hquoted : Json.Quoted ['a'] "a".toList :=
    .plain (by decide) (by decide) (by decide) .nil
  exact .mk hquoted

theorem isWhole_one : Json.IsWhole ['1'] :=
  ⟨⟨List.cons_ne_nil _ _, List.forall_mem_singleton.mpr rfl⟩, by decide⟩

/-- The object as it is written. -/
theorem written_repeatedText : Event.Written repeatedText
    [("a", .number ⟨false, ['1'], none, none⟩), ("a", .null)] := by
  have hnumber := @Json.SpellsNumber.mk false ['1'] [] [] none none isWhole_one .none .none
  have hone := Json.Member.mk spellsText_a Json.Blanks.nil Json.Blanks.nil
    (Json.Spells.number hnumber)
  have hnull := Json.Member.mk spellsText_a Json.Blanks.nil Json.Blanks.nil Json.Spells.null
  have hmembers := Json.Listed.cons Json.Blanks.nil hone Json.Blanks.nil
    (.one Json.Blanks.nil hnull Json.Blanks.nil)
  have hfinite : (Json.Numeral.mk false ['1'] none none).Finite :=
    Json.Numeral.Exact.finite (by decide)
  exact {
    document := .mk Json.Blanks.nil (.object (.listed hmembers)) Json.Blanks.nil
    depth_le := by decide
    finite := .object
      (List.forall_mem_cons.mpr ⟨.number hfinite, List.forall_mem_singleton.mpr .null⟩) }

/-- Of the two members of the key the second counts. -/
theorem event_repeatedCall :
    ∃ e, (epochCall repeatedText).event = .ok e ∧ e.members.get? "a" = some .null := by
  obtain ⟨hiff, hmeans, -⟩ := event_iff_written (verify_epochCall repeatedText) rfl
  obtain ⟨e, he⟩ := hiff.mpr ⟨_, written_repeatedText⟩
  refine ⟨e, he, ?_⟩
  cases hmeans e _ he written_repeatedText with
  | object hms hlast =>
    obtain _ | ⟨⟨_⟩, _ | ⟨⟨⟨⟩⟩, _ | _⟩⟩ := hms
    exact hlast.get?_eq "a"

/-- A number whose nearest double is the greatest one. -/
def lowNumeral : Json.Numeral :=
  ⟨false, ['1'], some "7976931348623158".toList, some 308⟩

/-- A number that is a little too large for a double. -/
def highNumeral : Json.Numeral :=
  ⟨false, "179769313486231581".toList, none, some 291⟩

/-- An object with the first number. -/
def lowText : String := "\x7b\"a\":1.7976931348623158e308\x7d"

/-- An object with the second number. -/
def highText : String := "\x7b\"a\":179769313486231581e291\x7d"

/-- An object with one number. -/
theorem document_single {cs : List Char} {n : Json.Numeral} (h : Json.SpellsNumber cs n) :
    Document ('\x7b' :: '"' :: 'a' :: '"' :: ':' :: cs ++ ['\x7d'])
      (.object [("a", .number n)]) := by
  have hmember := Json.Member.mk spellsText_a Json.Blanks.nil Json.Blanks.nil (Json.Spells.number h)
  have helements := Json.Elements.listed (.one Json.Blanks.nil hmember Json.Blanks.nil)
  have hdocument := Document.mk Json.Blanks.nil (.object helements) Json.Blanks.nil
  simpa using hdocument

theorem spellsNumber_low : Json.SpellsNumber "1.7976931348623158e308".toList lowNumeral := by
  have hfraction : Decimal.Digits "7976931348623158".toList :=
    ⟨by decide, List.all_eq_true.mp (by decide)⟩
  have hpower : Decimal.Digits "308".toList := ⟨by decide, List.all_eq_true.mp (by decide)⟩
  have hspells := @Json.SpellsNumber.mk false _ _ _ _ _ isWhole_one (.some hfraction)
    (.some (.inl rfl) (.plain hpower))
  exact hspells

theorem spellsNumber_high : Json.SpellsNumber "179769313486231581e291".toList highNumeral := by
  have hdigits : Decimal.Digits "179769313486231581".toList :=
    ⟨by decide, List.all_eq_true.mp (by decide)⟩
  have hwhole : Json.IsWhole "179769313486231581".toList := ⟨hdigits, by decide⟩
  have hpower : Decimal.Digits "291".toList := ⟨by decide, List.all_eq_true.mp (by decide)⟩
  have hspells := @Json.SpellsNumber.mk false _ _ _ _ _ hwhole .none
    (.some (.inl rfl) (.plain hpower))
  exact hspells

/-- The nearest double of the first number is finite. -/
theorem ofDecimal_lowNumeral :
    Binary64.ofDecimal false lowNumeral.digits lowNumeral.power ≠ none := by
  have hdigits : lowNumeral.digits = 17976931348623158 := by decide
  have hpower : lowNumeral.power = (292 : Nat) := by decide
  have hlt : 17976931348623158 * 10 ^ 292 < (2 ^ 54 - 1) * 2 ^ 970 := by decide +kernel
  rw [ne_eq, Binary64.ofDecimal_eq_none_iff, hdigits, hpower, zpow_natCast,
    Binary64.overflow_eq_natCast, not_le]
  exact_mod_cast hlt

/-- The second number is too large for a double. -/
theorem ofDecimal_highNumeral :
    Binary64.ofDecimal false highNumeral.digits highNumeral.power = none := by
  have hdigits : highNumeral.digits = 179769313486231581 := by decide
  have hpower : highNumeral.power = (291 : Nat) := by decide
  have hle : (2 ^ 54 - 1) * 2 ^ 970 ≤ 179769313486231581 * 10 ^ 291 := by decide +kernel
  rw [Binary64.ofDecimal_eq_none_iff, hdigits, hpower, zpow_natCast,
    Binary64.overflow_eq_natCast]
  exact_mod_cast hle

theorem exists_read_iff (text : String) :
    (∃ e, Event.read text = .ok e) ↔ (Json.readRoot text.toList).isOk = true := by
  rw [Event.read, Json.readObject]
  cases Json.readRoot text.toList with
  | error fault => exact iff_of_false (fun ⟨e, h⟩ => by cases h) Bool.false_ne_true
  | ok m => exact iff_of_true ⟨⟨m⟩, rfl⟩ rfl

/-- The event of such a delivery is that of its text. -/
theorem exists_event_epochCall_iff (text : String) :
    (∃ e, (epochCall text).event = .ok e) ↔ (Json.readRoot text.toList).isOk = true := by
  rw [Call.event_of_verify (verify_epochCall text) rfl, ← exists_read_iff]
  cases Event.read text <;> simp [Except.mapError]

/-- **Not the nearest doubles decide.** Two objects with one number each are signed and
delivered. The nearest double of the first number is finite, but the text is refused. The
second number is too large for any double, but the text is an event. -/
theorem event_not_by_nearest :
    ((epochCall lowText).verify = .ok () ∧
      Document lowText.toList (.object [("a", .number lowNumeral)]) ∧
      (Tree.object [("a", .number lowNumeral)]).depth ≤ 127 ∧
      Binary64.ofDecimal false lowNumeral.digits lowNumeral.power ≠ none ∧
      ¬ ∃ e, (epochCall lowText).event = .ok e) ∧
    (epochCall highText).verify = .ok () ∧
      Document highText.toList (.object [("a", .number highNumeral)]) ∧
      Binary64.ofDecimal false highNumeral.digits highNumeral.power = none ∧
      ∃ e, (epochCall highText).event = .ok e := by
  have hlow : (Json.readRoot lowText.toList).isOk = false := by decide +kernel
  have hhigh : (Json.readRoot highText.toList).isOk = true := by decide +kernel
  refine ⟨⟨verify_epochCall _, document_single spellsNumber_low, by decide,
    ofDecimal_lowNumeral, ?_⟩, verify_epochCall _, document_single spellsNumber_high,
    ofDecimal_highNumeral, (exists_event_epochCall_iff highText).mpr hhigh⟩
  rw [exists_event_epochCall_iff, hlow]
  exact Bool.false_ne_true

end Verifier
end SignedHooks
