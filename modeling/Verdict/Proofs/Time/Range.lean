import Verdict.Operator.Temporal
import Verdict.Proofs.Text.Digits
import Verdict.Proofs.Time.Spelling
import Mathlib.Data.List.Induction

/-!
# What is read as a date

Whatever is read as a date is an instant within the range of years, and a leap second ends a minute
(`Instant.valid_ofJson?`).  Between two such instants there are less than `2 ^ 54` milliseconds.
-/

namespace Verdict

namespace Text

theorem digitValue_lt {c : Char} (h : c.isDigit = true) : digitValue c < 10 := by
  have hrange : 48 ≤ c.toNat ∧ c.toNat ≤ 57 := by
    simpa [Char.isDigit, UInt32.le_iff_toNat_le] using h
  change c.toNat - 48 < 10
  omega

theorem numeral_lt {digits : List Char} (h : Digits digits) :
    numeral digits < 10 ^ digits.length := by
  induction digits using List.reverseRecOn with
  | nil => exact Nat.one_pos
  | append_singleton digits c ih =>
      have hfront : Digits digits := fun c hc => h c (List.mem_append_left _ hc)
      have hlast := digitValue_lt (h c (List.mem_append_right _ (List.mem_singleton_self c)))
      have hlt := ih hfront
      rw [numeral_append_singleton, List.length_append, List.length_singleton, Nat.pow_succ]
      omega

end Text

namespace Timestamp

open Text

theorem fraction_lt {text rest : List Char} {nanos : Nat} (h : fraction text = some (nanos, rest)) :
    nanos < 1000000000 := by
  have hdigits : ∀ text, fractionDigits text = some (nanos, rest) → nanos < 1000000000 := by
    intro text h
    rw [fractionDigits] at h
    split at h
    · cases h
    · obtain ⟨kept, hkept⟩ : ∃ kept, kept = (text.takeWhile Char.isDigit).take 9 := ⟨_, rfl⟩
      have hdigits : Digits kept := by
        intro c hc
        rw [hkept] at hc
        exact List.all_eq_true.mp List.all_takeWhile c (List.mem_of_mem_take hc)
      have hlength : kept.length ≤ 9 := hkept ▸ List.length_take_le 9 _
      have hnanos : numeral kept * 10 ^ (9 - kept.length) = nanos := by
        rw [hkept]
        exact congrArg Prod.fst (Option.some_inj.mp h)
      calc
        nanos = numeral kept * 10 ^ (9 - kept.length) := hnanos.symm
        _ < 10 ^ kept.length * 10 ^ (9 - kept.length) := by
          gcongr
          exact numeral_lt hdigits
        _ = 10 ^ 9 := by
          rw [← Nat.pow_add]
          congr 1
          omega
  unfold fraction at h
  split at h
  · exact hdigits _ h
  · cases h
    decide

theorem offset_emod {separator : List Char → Option (List Char)} {text rest : List Char}
    {ahead : Int} (h : offset separator text = some (ahead, rest)) : ahead % 60 = 0 := by
  have hwhole : ∀ (sign : Int) (hours minutes : Nat),
      sign * (hours * 3600 + minutes * 60) % 60 = 0 := by
    intro sign hours minutes
    rw [Int.mul_add, ← Int.mul_assoc, ← Int.mul_assoc]
    omega
  unfold offset at h
  split at h
  case h_1 | h_2 =>
    cases h
    rfl
  case h_6 => cases h
  all_goals
    simp only [Option.bind_eq_bind, Option.bind_eq_some_iff, Prod.exists,
      Option.ite_none_left_eq_some, Option.some_inj, Prod.mk.injEq] at h
    obtain ⟨hours, _, -, _, -, minutes, _, -, -, rfl, -⟩ := h
    exact hwhole _ hours minutes

theorem Written.valid_of_instant? {written : Written} {ahead : Int} {instant : Instant}
    (hnanos : written.nanos < 1000000000) (hahead : ahead % 60 = 0)
    (h : written.instant? ahead = some instant) : instant.Valid := by
  simp only [Written.instant?, Option.ite_none_right_eq_some, Option.some_inj] at h
  obtain ⟨⟨-, -, -, hsecond⟩, ⟨-, hearliest, hlatest⟩, rfl⟩ := h
  refine ⟨hearliest, hlatest, ?_⟩
  by_cases hleap : written.second = 60
  · right
    simp only [hleap, if_true, Instant.secondsPerDay]
    omega
  · left
    simpa only [hleap, if_false] using hnanos

theorem looseDate_nanos {gap : List Char → List Char} {text rest : List Char} {written : Written}
    (h : looseDate gap text = some (written, rest)) : written.nanos = 0 := by
  simp only [looseDate, Option.bind_eq_bind, Option.bind_eq_some_iff, Prod.exists, Option.pure_def,
    Option.some_inj, Prod.mk.injEq] at h
  obtain ⟨_, _, -, _, -, _, _, -, _, -, _, _, -, rfl, -⟩ := h
  rfl

theorem looseTime_nanos {gap : List Char → List Char} {date written : Written}
    {text rest : List Char} (h : looseTime gap date text = some (written, rest)) :
    written.nanos < 1000000000 := by
  simp only [looseTime, Option.bind_eq_bind, Option.bind_eq_some_iff, Prod.exists, Option.pure_def,
    Option.some_inj, Prod.mk.injEq] at h
  obtain ⟨_, _, -, _, -, _, _, -, _, -, _, _, -, nanos, _, hfraction, rfl, -⟩ := h
  exact fraction_lt hfraction

theorem valid_of_strict {text : List Char} {instant : Instant} (h : strict text = some instant) :
    instant.Valid := by
  iterate 11 obtain ⟨_, -, h⟩ := Option.bind_eq_some_iff.mp h
  obtain ⟨⟨nanos, _⟩, hfraction, h⟩ := Option.bind_eq_some_iff.mp h
  obtain ⟨⟨ahead, _⟩, hoffset, h⟩ := Option.bind_eq_some_iff.mp h
  obtain ⟨-, hinstant⟩ := Option.ite_none_right_eq_some.mp h
  exact Written.valid_of_instant? (fraction_lt hfraction) (offset_emod hoffset) hinstant

theorem valid_of_localTime {text : List Char} {instant : Instant}
    (h : localTime text = some instant) : instant.Valid := by
  simp only [localTime, Option.bind_eq_bind, Option.bind_eq_some_iff, Prod.exists,
    Option.ite_none_right_eq_some] at h
  obtain ⟨_, _, -, written, _, htime, -, hinstant⟩ := h
  exact Written.valid_of_instant? (looseTime_nanos htime) rfl hinstant

theorem valid_of_localDate {text : List Char} {instant : Instant}
    (h : localDate text = some instant) : instant.Valid := by
  simp only [localDate, Option.bind_eq_bind, Option.bind_eq_some_iff, Prod.exists,
    Option.ite_none_right_eq_some] at h
  obtain ⟨written, _, hdate, -, hinstant⟩ := h
  have hnanos := looseDate_nanos hdate
  exact Written.valid_of_instant? (by omega) rfl hinstant

end Timestamp

namespace Instant

theorem valid_ofJson? {value : Json} {instant : Instant} (h : ofJson? value = some instant) :
    instant.Valid := by
  unfold ofJson? at h
  split at h
  · simp only [ofText?, Option.or_eq_some_iff] at h
    rcases h with hstrict | ⟨-, hlocal | ⟨-, hdate⟩⟩
    · exact Timestamp.valid_of_strict hstrict
    · exact Timestamp.valid_of_localTime hlocal
    · exact Timestamp.valid_of_localDate hdate
  · simp only [ofSeconds?, Option.ite_none_right_eq_some, Option.some_inj] at h
    obtain ⟨⟨hearliest, hlatest⟩, rfl⟩ := h
    exact ⟨hearliest, hlatest, Or.inl (Nat.succ_pos _)⟩
  · cases h

/-- A value read as a date is not null, so operators that pass over null read it too. -/
theorem bind_ofJson?_defined {value : Json} {instant : Instant}
    (h : ofJson? value = some instant) :
    (Operator.defined (some value)).bind ofJson? = some instant := by
  have hdefined : Operator.defined (some value) = some value := by
    cases value with
    | null => cases h
    | _ => rfl
  rw [hdefined, Option.bind_some, h]

/-! ## Distances -/

/-- Nanoseconds since the start of 1970, without leap seconds. -/
def sinceEpoch (instant : Instant) : Int :=
  instant.seconds * nanosPerSecond + instant.nanos

/-- Without leap seconds, the time between two instants is the difference of their nanoseconds. -/
theorem nanosSince_eq {a b : Instant} (ha : a.nanos < 1000000000) (hb : b.nanos < 1000000000) :
    nanosSince a b = a.sinceEpoch - b.sinceEpoch := by
  simp only [nanosSince, sinceEpoch, nanosPerSecond]
  omega

theorem natAbs_millisSince (a b : Instant) :
    (millisSince a b).natAbs = (nanosSince a b).natAbs / 1000000 :=
  Int.natAbs_tdiv _ _

theorem natAbs_millisSince_lt {a b : Instant} (ha : a.Valid) (hb : b.Valid) :
    (millisSince a b).natAbs < 2 ^ 54 := by
  obtain ⟨haearliest, halatest, hafraction⟩ := ha
  obtain ⟨hbearliest, hblatest, hbfraction⟩ := hb
  rw [natAbs_millisSince]
  simp only [minSeconds, maxSeconds] at haearliest halatest hbearliest hblatest
  simp only [nanosSince, nanosPerSecond]
  split_ifs
  all_goals omega

end Instant
end Verdict
