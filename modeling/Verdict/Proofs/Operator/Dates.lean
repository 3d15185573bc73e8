import Verdict.Proofs.Time.Formats
import Verdict.Proofs.Time.Range

/-!
# Values of one date

Operators see only the instant of a date, so it makes no difference which of its values a rule or a
context holds.
-/

namespace Verdict

/-- Values of an instant: its texts, with blanks around them or without, and a number of seconds. -/
inductive Instant.HasValue (instant : Instant) : Json → Prop where
  | text {before text after : List Char} (hbefore : ∀ c ∈ before, Text.isBlank c = true)
      (htext : instant.HasText text) (hafter : ∀ c ∈ after, Text.isBlank c = true) :
      HasValue instant (.string (String.ofList (before ++ (text ++ after))))
  | seconds (hnanos : instant.nanos = 0) : HasValue instant (.ofInt instant.seconds)

theorem Instant.ofJson?_of_hasValue {instant : Instant} (valid : instant.Valid)
    (hnanos : instant.nanos < 1000000000) {value : Json} (h : instant.HasValue value) :
    ofJson? value = some instant := by
  cases h with
  | text hbefore htext hafter =>
      rw [ofJson?, ofText?_of_hasText htext valid hnanos hbefore hafter]
  | seconds hnone =>
      have hsame : (⟨instant.seconds, 0⟩ : Instant) = instant := by rw [← hnone]
      rw [Json.ofInt, ofJson?, ofSeconds?, if_pos ⟨valid.earliest, valid.latest⟩, hsame]

namespace Operator

/-- Two values of one instant, neither of which is a leap second, are read as that instant, and the
operators on dates answer the same for them, on either side. -/
theorem dates_of_hasValue {instant : Instant} (valid : instant.Valid)
    (hnanos : instant.nanos < 1000000000) {a b : Json} (ha : instant.HasValue a)
    (hb : instant.HasValue b) :
    (Instant.ofJson? a = some instant ∧ Instant.ofJson? b = some instant) ∧
      (∀ expected now,
        beforeDate (some a) expected now = beforeDate (some b) expected now ∧
          afterDate (some a) expected now = afterDate (some b) expected now ∧
            withinDays (some a) expected now = withinDays (some b) expected now ∧
              dayOfWeek (some a) expected now = dayOfWeek (some b) expected now) ∧
      ∀ actual now,
        beforeDate actual a now = beforeDate actual b now ∧
          afterDate actual a now = afterDate actual b now := by
  have hread := Instant.ofJson?_of_hasValue valid hnanos ha
  have hsame := Instant.ofJson?_of_hasValue valid hnanos hb
  have hactual := Instant.bind_ofJson?_defined hread
  have hactualSame := Instant.bind_ofJson?_defined hsame
  refine ⟨⟨hread, hsame⟩, fun expected now => ?_, fun actual now => ?_⟩
  · simp only [beforeDate, afterDate, withinDays, dayOfWeek, instantsOf, hactual, hactualSame,
      and_self]
  · simp only [beforeDate, afterDate, instantsOf, hread, hsame, and_self]

theorem dates_of_hasValue_twoHoursAhead :
    let instant : Instant := ⟨1710498600, 500000000⟩
    let utc := Json.string "2024-03-15 10:30:00.500"
    let ahead := Json.string " 2024-03-15T12:30:00.5+02:00\n"
    instant.Valid ∧ instant.HasValue utc ∧ instant.HasValue ahead ∧
      Instant.ofJson? ahead = some instant ∧
        beforeDate (some ahead) utc ⟨0, 0⟩ = beforeDate (some utc) utc ⟨0, 0⟩ := by
  have valid : Instant.Valid ⟨1710498600, 500000000⟩ := ⟨by decide, by decide, by decide⟩
  have hthree : Timestamp.Fraction 500000000 ['.', '5', '0', '0'] :=
    @Timestamp.Fraction.digits ['5', '0', '0'] (List.all_eq_true.mp rfl) (by decide) (by decide)
  have hone : Timestamp.Fraction 500000000 ['.', '5'] :=
    @Timestamp.Fraction.digits ['5'] (List.all_eq_true.mp rfl) (by decide) (by decide)
  have htext : Instant.HasText ⟨1710498600, 500000000⟩ _ := .naive (Or.inr rfl) hthree
  have hmoved : Instant.HasText ⟨1710498600, 500000000⟩ _ :=
    .zoned (by decide +kernel) (Or.inl rfl) hone (.ahead (by decide : 120 < 1440))
  have hutc : Instant.HasValue ⟨1710498600, 500000000⟩ (.string "2024-03-15 10:30:00.500") :=
    @Instant.HasValue.text _ [] _ [] (List.forall_mem_nil _) htext (List.forall_mem_nil _)
  have hahead : Instant.HasValue ⟨1710498600, 500000000⟩
      (.string " 2024-03-15T12:30:00.5+02:00\n") :=
    @Instant.HasValue.text _ [' '] _ ['\n'] (List.forall_mem_singleton.mpr rfl) hmoved
      (List.forall_mem_singleton.mpr rfl)
  obtain ⟨⟨hread, -⟩, hsame, -⟩ := dates_of_hasValue valid (by decide) hahead hutc
  exact ⟨valid, hutc, hahead, hread, (hsame _ _).1⟩

end Operator
end Verdict
