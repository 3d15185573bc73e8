import Verdict.Proofs.Decimal.Products
import Verdict.Proofs.Operator.Numeric
import Verdict.Proofs.Time.Range

/-!
# Distances in days

What a distance has beyond its last millisecond is dropped, so a date passes that is up to a
millisecond too far away, and up to two from `2 ^ 53` milliseconds on, where the odd numbers are
rounded away (`Operator.withinDays_iff`).
-/

namespace Verdict
namespace Operator

open ExactValue Float.Model UnpackedFloat UnitInterval

/-! ## Milliseconds as floats -/

/-- Up to `2 ^ 54` only odd numbers are rounded, and only beyond `2 ^ 53`: to the neighbour that is
a multiple of four. -/
theorem nearestNat_le_iff {n bound : Nat} (hn : n < 2 ^ 54) (hbound : 4 ∣ bound) :
    nearestNat n ≤ bound ↔ n ≤ bound + if bound < 2 ^ 53 then 0 else 1 := by
  by_cases hsmall : n < 2 ^ 53
  · rw [nearestNat_of_lt hsmall]
    split_ifs
    · rfl
    · omega
  · have hlog : n.log2 = 53 := (Nat.log2_eq_iff (by omega)).mpr ⟨by omega, hn⟩
    have hspacing : spacing n = 2 := by
      rw [spacing, hlog]
      rfl
    rw [nearestNat, hspacing, Decimal.roundHalfEven]
    split_ifs
    all_goals omega

theorem hasSize_millisPerDay :
    HasSize .positive 12 (86400000 : Nat) millisPerDay.toModel.unpack := by
  have hsize := hasSize_ofNat (n := 86400000) (by decide) (by decide)
  rwa [nearestNat_of_lt (by decide)] at hsize

theorem ofNat_le_mul_millisPerDay_iff {days : Float} (finite : days.isFinite = true) {count : Nat}
    (hdays : exact days = count) {millis : Nat} (hmillis : millis < 2 ^ 54) :
    Float.ofNat millis ≤ days * millisPerDay ↔ nearestNat millis ≤ count * 86400000 := by
  have hword : millis < 2 ^ 64 := hmillis.trans (by decide)
  by_cases hzero : count = 0
  · rw [hzero, Nat.cast_zero] at hdays
    obtain ⟨sign, hproduct⟩ := unpack_mul_of_zero finite hdays hasSize_millisPerDay
    have hfinite : (days * millisPerDay).isFinite = true := by
      change (days * millisPerDay).toModel.unpack.isFinite = true
      rw [hproduct]
      rfl
    have hexact : exact (days * millisPerDay) = 0 := by
      rw [exact, hproduct]
      rfl
    rw [le_iff (isFinite_ofNat hword) hfinite, exact_ofNat hword, hexact, hzero, Nat.zero_mul]
    exact_mod_cast Iff.rfl
  obtain ⟨most, hsize⟩ := exists_hasSize_of_exact finite hzero hdays
  by_cases hsmall : count < 2 ^ 36
  · obtain ⟨significand, exponent, hlow, hhigh, hleast, hmost, hmagnitude⟩ :=
      exists_magnitude_eq (n := count * 84375) (by omega) (by omega) 10
    have hproduct : magnitude significand exponent = (count : ℚ) * (86400000 : Nat) := by
      rw [hmagnitude]
      push_cast
      ring
    have hmul := hasSize_mul hsize hasSize_millisPerDay hlow hhigh (by omega) (by omega) hproduct
    have hexact : exact (days * millisPerDay) = (count : ℚ) * (86400000 : Nat) := hmul.value_eq
    rw [le_iff (isFinite_ofNat hword) hmul.isFinite, exact_ofNat hword, hexact]
    exact_mod_cast Iff.rfl
  · have hwide : Wide .positive ((62 : Nat) - 52) (days * millisPerDay).toModel.unpack :=
      wide_mul hsize hasSize_millisPerDay (a := 36) (b := 26) (by exact_mod_cast not_lt.mp hsmall)
        (by norm_num)
    have hall : Float.ofNat millis ≤ days * millisPerDay :=
      ofNat_le_of_wide (hmillis.trans (by decide)) (by decide) (by decide) hwide
    refine iff_of_true hall ((nearestNat_le_iff hmillis (by omega)).mpr ?_)
    omega

/-! ## Days -/

/-- A natural number as an operand: an integer of 64 bits, or a float that stands for it. -/
inductive DayCount (days : Nat) : Json → Prop where
  | integer (h : (Number.int days).Representable) : DayCount days (.ofInt days)
  | float {value : Float} (finite : value.isFinite = true) (h : exact value = days) :
      DayCount days (.number (.float value))

theorem DayCount.exists_float {days : Nat} {operand : Json} (h : DayCount days operand) :
    ∃ value count, operand.float? = some value ∧ value.isFinite = true ∧
      exact value = (count : Nat) ∧ (count = days ∨ 2 ^ 53 ≤ count ∧ 2 ^ 53 ≤ days) := by
  cases h with
  | integer h =>
      have hword : days < 2 ^ 64 := natAbs_lt_of_representable h
      refine ⟨Float.ofNat days, nearestNat days, rfl, isFinite_ofNat hword, exact_ofNat hword, ?_⟩
      by_cases hsmall : days < 2 ^ 53
      · exact Or.inl (nearestNat_of_lt hsmall)
      · have hlog : 53 ≤ days.log2 := (Nat.le_log2 (by omega)).mpr (by omega)
        have hpow : 2 ^ 53 ≤ 2 ^ days.log2 := Nat.pow_le_pow_right Nat.two_pos hlog
        exact Or.inr ⟨hpow.trans (two_pow_log2_le_nearestNat (by omega)), by omega⟩
  | float finite h => exact ⟨_, days, rfl, finite, h, Or.inl rfl⟩

/-- The nanoseconds by which a date may miss a number of days and pass. -/
def leeway (days : Nat) : Nat :=
  if days * 86400000 < 2 ^ 53 then 1000000 else 2000000

theorem withinDays_eq {value : Json} {date : Instant} (hdate : Instant.ofJson? value = some date)
    {operand : Json} {days : Float} (hdays : operand.float? = some days) (now : Instant) :
    withinDays (some value) operand now =
      (days.isFinite && 0 ≤ days &&
        Float.ofNat (date.millisSince now).natAbs ≤ days * millisPerDay) := by
  rw [withinDays, Instant.bind_ofJson?_defined hdate, hdays]

theorem withinDays_iff {value : Json} {date : Instant} (hdate : Instant.ofJson? value = some date)
    {now : Instant} (hnow : now.Valid) {days : Nat} {operand : Json}
    (hdays : DayCount days operand) :
    withinDays (some value) operand now = true ↔
      (date.nanosSince now).natAbs < days * 86400000000000 + leeway days := by
  obtain ⟨float, count, hfloat, finite, hexact, hcount⟩ := hdays.exists_float
  have hmillis := Instant.natAbs_millisSince_lt (Instant.valid_ofJson? hdate) hnow
  have hzero : exact (0 : Float) = 0 := rfl
  have hnonneg : (0 : Float) ≤ float := by
    rw [le_iff rfl finite, hzero, hexact]
    exact Nat.cast_nonneg count
  have hpassed : nearestNat (date.millisSince now).natAbs ≤ count * 86400000 ↔
      (date.nanosSince now).natAbs < days * 86400000000000 + leeway days := by
    rw [nearestNat_le_iff hmillis (by omega), leeway]
    rw [Instant.natAbs_millisSince] at hmillis ⊢
    split_ifs
    all_goals omega
  rw [withinDays_eq hdate hfloat, finite, decide_eq_true hnonneg, Bool.true_and, Bool.true_and,
    decide_eq_true_iff, ofNat_le_mul_millisPerDay_iff finite hexact hmillis, hpassed]

/-- No date within the number of days is refused.  One that is further away passes if it misses the
number by less than the leeway, so the test is exact for distances of whole milliseconds below `2 ^
53`. -/
theorem withinDays_of_dayCount {value : Json} {date : Instant}
    (hdate : Instant.ofJson? value = some date) {now : Instant} (hnow : now.Valid) {days : Nat}
    {operand : Json} (hdays : DayCount days operand) :
    (withinDays (some value) operand now = true ↔
        (date.nanosSince now).natAbs < days * 86400000000000 + leeway days) ∧
      ((date.nanosSince now).natAbs ≤ days * 86400000000000 →
        withinDays (some value) operand now = true) ∧
      (1000000 ∣ date.nanosSince now → days * 86400000 < 2 ^ 53 →
        (withinDays (some value) operand now = true ↔
          (date.nanosSince now).natAbs ≤ days * 86400000000000)) ∧
      (date.nanos < 1000000000 → now.nanos < 1000000000 →
        date.nanosSince now = date.sinceEpoch - now.sinceEpoch) := by
  have hpassed := withinDays_iff hdate hnow hdays
  refine ⟨hpassed, fun hwithin => hpassed.mpr ?_, fun hmillis hsmall => ?_, Instant.nanosSince_eq⟩
  · have hpos : 0 < leeway days := by
      rw [leeway]
      split_ifs
      all_goals decide
    omega
  · have hwhole : 1000000 ∣ (date.nanosSince now).natAbs := Int.natCast_dvd.mp hmillis
    rw [hpassed, leeway, if_pos hsmall]
    omega

theorem withinDays_of_dayCount_week :
    let value := Json.string "2024-06-08T12:00:00Z"
    let date : Instant := ⟨1717848000, 0⟩
    let now : Instant := ⟨1718452800, 0⟩
    Instant.ofJson? value = some date ∧ now.Valid ∧ DayCount 7 (.ofInt 7) ∧
      withinDays (some value) (.ofInt 7) now = true :=
  have hdate : Instant.ofJson? (.string "2024-06-08T12:00:00Z") = some ⟨1717848000, 0⟩ := by
    decide +kernel
  have hnow : Instant.Valid ⟨1718452800, 0⟩ := ⟨by decide, by decide, by decide⟩
  have hdays : DayCount 7 (.ofInt 7) := .integer ⟨by decide, by decide⟩
  ⟨hdate, hnow, hdays, (withinDays_of_dayCount hdate hnow hdays).2.1 (by decide)⟩

/-- Half a millisecond too far away. -/
theorem withinDays_admits_fraction :
    let value := Json.string "2024-06-22T12:00:00.0005Z"
    let date : Instant := ⟨1719057600, 500000⟩
    let now : Instant := ⟨1718452800, 0⟩
    Instant.ofJson? value = some date ∧ now.Valid ∧
      ¬ (date.sinceEpoch - now.sinceEpoch).natAbs ≤ 7 * 86400000000000 ∧
        withinDays (some value) (.ofInt 7) now = true := by
  have hdate : Instant.ofJson? (.string "2024-06-22T12:00:00.0005Z") =
      some ⟨1719057600, 500000⟩ := by decide +kernel
  have hnow : Instant.Valid ⟨1718452800, 0⟩ := ⟨by decide, by decide, by decide⟩
  have hdays : DayCount 7 (.ofInt 7) := .integer ⟨by decide, by decide⟩
  exact ⟨hdate, hnow, by decide, (withinDays_iff hdate hnow hdays).mpr (by decide)⟩

end Operator
end Verdict
