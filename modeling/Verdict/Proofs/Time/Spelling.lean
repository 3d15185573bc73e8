import Verdict.Time.Timestamp
import Verdict.Proofs.Text.Digits
import Verdict.Proofs.Time.Calendar

/-!
# Instants are read as they are written

The readers of the parts take digits as long as there are some.  In the text of an instant there is
always a sign behind them, so each reader stops where its part ends.
-/

namespace Verdict

/-- The instant is within the range of years, and a leap second ends a minute. -/
structure Instant.Valid (instant : Instant) : Prop where
  earliest : minSeconds ≤ instant.seconds
  latest : instant.seconds ≤ maxSeconds
  fraction : instant.nanos < 1000000000 ∨
    instant.nanos < 2000000000 ∧ instant.seconds % 60 = 59

namespace Timestamp

open Text

/-! ## Parts -/

theorem number_append {most : Nat} {digits rest : List Char} (hdigits : Digits digits)
    (hne : digits ≠ []) (hmost : digits.length ≤ most)
    (hrest : rest.takeWhile Char.isDigit = []) :
    number most (digits ++ rest) = some (numeral digits, rest) := by
  have hstop : (rest.take (most - digits.length)).takeWhile Char.isDigit = [] := by
    cases rest with
    | nil => rw [List.take_nil]; rfl
    | cons c rest =>
        cases most - digits.length with
        | zero => rfl
        | succ more =>
            have hc : ¬ c.isDigit = true := by
              intro hc
              rw [List.takeWhile_cons_of_pos hc] at hrest
              cases hrest
            rw [List.take_succ_cons, List.takeWhile_cons_of_neg hc]
  have htaken : ((digits ++ rest).take most).takeWhile Char.isDigit = digits := by
    rw [List.take_append, List.take_of_length_le hmost, takeWhile_isDigit_append hdigits hstop]
  have hsome : digits.isEmpty = false := by simpa using hne
  simp only [number, htaken, hsome, Bool.false_eq_true, if_false, List.drop_left]

theorem number_padded {most width value : Nat} {rest : List Char}
    (hmost : (Decimal.padded width value).toList.length ≤ most)
    (hrest : rest.takeWhile Char.isDigit = []) :
    number most ((Decimal.padded width value).toList ++ rest) = some (value, rest) := by
  rw [number_append (Decimal.digits_padded _ _) (Decimal.padded_ne_nil _ _) hmost hrest,
    Decimal.numeral_padded]

theorem looseNumber_padded {width value : Nat} (rest : List Char) (hwidth : 0 < width)
    (hvalue : value < 10 ^ width) (hrest : rest.takeWhile Char.isDigit = []) :
    looseNumber width ((Decimal.padded width value).toList ++ rest) = some (value, rest) := by
  have hlength := Decimal.length_padded hwidth hvalue
  rw [looseNumber, (Decimal.unbroken_padded _ _).trimStart_append,
    number_padded hlength.le hrest]

theorem looseYear_of_digits {digits rest : List Char} (hdigits : Digits digits)
    (hne : digits ≠ []) :
    looseYear (digits ++ rest) =
      (number 4 (digits ++ rest)).map fun (year, rest) => ((year : Int), rest) := by
  rw [looseYear, (unbroken_of_digits hdigits hne).trimStart_append]
  cases digits with
  | nil => exact absurd rfl hne
  | cons c digits =>
      have hc := hdigits c List.mem_cons_self
      rw [List.cons_append]
      split
      · next heq =>
        cases heq
        cases hc
      · next heq =>
        cases heq
        cases hc
      · rfl

theorem looseYear_yearText (year : Int) (rest : List Char)
    (hrest : rest.takeWhile Char.isDigit = []) :
    looseYear ((Instant.yearText year).toList ++ rest) = some (year, rest) := by
  unfold Instant.yearText
  split
  · next hshort =>
    have hlength : (Decimal.padded 4 year.natAbs).toList.length = 4 :=
      Decimal.length_padded (by decide) (by omega)
    have hyear : (year.natAbs : Int) = year := Int.natAbs_of_nonneg hshort.1
    rw [looseYear_of_digits (Decimal.digits_padded _ _) (Decimal.padded_ne_nil _ _),
      number_padded hlength.le hrest]
    simp only [Option.map_some, hyear]
  · have hnumber : ∀ text, text = (Decimal.padded 4 year.natAbs).toList ++ rest →
        number text.length text = some (year.natAbs, rest) := by
      rintro text rfl
      exact number_padded (by rw [List.length_append]; omega) hrest
    rw [String.toList_append, List.append_assoc]
    generalize htext : (Decimal.padded 4 year.natAbs).toList ++ rest = text at hnumber
    by_cases hnegative : year < 0
    · have hread : looseYear ('-' :: text) =
          (number text.length text).map fun (year, rest) => (-(year : Int), rest) := rfl
      have hyear : -(year.natAbs : Int) = year := by omega
      rw [if_pos hnegative]
      refine hread.trans ?_
      simp only [hnumber text rfl, Option.map_some, hyear]
    · have hread : looseYear ('+' :: text) =
          (number text.length text).map fun (year, rest) => ((year : Int), rest) := rfl
      have hyear : (year.natAbs : Int) = year := by omega
      rw [if_neg hnegative]
      refine hread.trans ?_
      simp only [hnumber text rfl, Option.map_some, hyear]

/-- Texts of so many nanoseconds: up to nine digits behind a point, or nothing. -/
inductive Fraction : Nat → List Char → Prop where
  | none : Fraction 0 []
  | digits {digits : List Char} (hdigits : Digits digits) (hne : digits ≠ [])
      (hlength : digits.length ≤ 9) :
      Fraction (numeral digits * 10 ^ (9 - digits.length)) ('.' :: digits)

theorem Fraction.takeWhile_append {nanos : Nat} {text rest : List Char} (h : Fraction nanos text)
    (hrest : rest.takeWhile Char.isDigit = []) :
    (text ++ rest).takeWhile Char.isDigit = [] := by
  cases h with
  | none => exact hrest
  | digits => rfl

theorem Fraction.ink {nanos : Nat} {text : List Char} (h : Fraction nanos text) :
    ∀ c ∈ text, isBlank c = false := by
  cases h with
  | none => exact List.forall_mem_nil _
  | digits hdigits =>
      exact List.forall_mem_cons.mpr ⟨rfl, fun c hc => not_isBlank_of_isDigit (hdigits c hc)⟩

theorem Fraction.fraction_append {nanos : Nat} {text rest : List Char} (h : Fraction nanos text)
    (hrest : rest.takeWhile Char.isDigit = []) (hpoint : rest.head? ≠ some '.') :
    fraction (text ++ rest) = some (nanos, rest) := by
  cases h with
  | none =>
      change fraction rest = _
      unfold fraction
      split
      · exact absurd rfl hpoint
      · rfl
  | @digits digits hdigits hne hlength =>
      have htaken := takeWhile_isDigit_append hdigits hrest
      have hsome : digits.isEmpty = false := by simpa using hne
      change fractionDigits (digits ++ rest) = _
      simp only [fractionDigits, htaken, hsome, Bool.false_eq_true, if_false,
        List.take_of_length_le hlength, List.drop_left]
      rfl

theorem fraction_fractionText {nanos : Nat} (hnanos : nanos < 1000000000) :
    Fraction nanos (Instant.fractionText nanos).toList := by
  have hdigits : ∀ width value, 0 < width → width ≤ 9 → value < 10 ^ width →
      value * 10 ^ (9 - width) = nanos →
        Fraction nanos ("." ++ Decimal.padded width value).toList := by
    intro width value hpos hwidth hvalue hnanos
    have hlength := Decimal.length_padded hpos hvalue
    have htext := Fraction.digits (Decimal.digits_padded width value)
      (Decimal.padded_ne_nil width value) (hlength.le.trans hwidth)
    rw [Decimal.numeral_padded, hlength, hnanos] at htext
    rw [String.toList_append]
    exact htext
  unfold Instant.fractionText
  split_ifs with hzero hmillis hmicros
  · rw [hzero]
    exact .none
  · exact hdigits 3 _ (by decide) (by decide) (by omega) (by omega)
  · exact hdigits 6 _ (by decide) (by decide) (by omega) (by omega)
  · exact hdigits 9 _ (by decide) (by decide) (by omega) (by omega)

/-! ## Dates and times of day -/

/-- What may stand before a sign does not have to. -/
def Lenient (gap : List Char → List Char) : Prop :=
  ∀ c rest, isBlank c = false → gap (c :: rest) = c :: rest

theorem lenient_trimStart : Lenient trimStart :=
  fun _ _ hc => trimStart_cons_of_not_isBlank hc

theorem expect_self {gap : List Char → List Char} (lenient : Lenient gap) {c : Char}
    (hc : isBlank c = false) (rest : List Char) : expect c (gap (c :: rest)) = some rest := by
  rw [lenient c rest hc]
  exact if_pos rfl

/-- `YYYY-MM-DD`, with a sign before a year that has more than four digits or is negative. -/
def Written.dateText (written : Written) : List Char :=
  (Instant.yearText written.year).toList ++ '-' :: ((Decimal.padded 2 written.month).toList ++
    '-' :: (Decimal.padded 2 written.day).toList)

def Written.clockText (written : Written) : List Char :=
  (Decimal.padded 2 written.hour).toList ++ ':' :: ((Decimal.padded 2 written.minute).toList ++
    ':' :: (Decimal.padded 2 written.second).toList)

/-- Two digits are enough for all fields but the year and the fraction. -/
structure Written.Fits (written : Written) : Prop where
  month : written.month < 10 ^ 2
  day : written.day < 10 ^ 2
  hour : written.hour < 10 ^ 2
  minute : written.minute < 10 ^ 2
  second : written.second < 10 ^ 2

theorem looseDate_dateText {gap : List Char → List Char} (lenient : Lenient gap)
    {written : Written} (fits : written.Fits) (rest : List Char)
    (hrest : rest.takeWhile Char.isDigit = []) :
    looseDate gap (written.dateText ++ rest) =
      some (⟨written.year, written.month, written.day, 0, 0, 0, 0⟩, rest) := by
  simp only [Written.dateText, List.append_assoc, List.cons_append, looseDate,
    looseYear_yearText written.year ('-' :: _) rfl,
    looseNumber_padded ('-' :: _) Nat.two_pos fits.month rfl,
    looseNumber_padded rest Nat.two_pos fits.day hrest,
    expect_self lenient (by decide : isBlank '-' = false), bind, Option.bind, pure]

theorem looseTime_clockText {gap : List Char → List Char} (lenient : Lenient gap) (date : Written)
    {written : Written} (fits : written.Fits) {decimals : List Char}
    (hdecimals : Fraction written.nanos decimals) (rest : List Char)
    (hrest : rest.takeWhile Char.isDigit = []) (hpoint : rest.head? ≠ some '.') :
    looseTime gap date (written.clockText ++ (decimals ++ rest)) =
      some (⟨date.year, date.month, date.day, written.hour, written.minute, written.second,
        written.nanos⟩, rest) := by
  have hbehind := hdecimals.takeWhile_append hrest
  simp only [Written.clockText, List.append_assoc, List.cons_append, looseTime,
    looseNumber_padded (':' :: _) Nat.two_pos fits.hour rfl,
    looseNumber_padded (':' :: _) Nat.two_pos fits.minute rfl,
    looseNumber_padded _ Nat.two_pos fits.second hbehind, hdecimals.fraction_append hrest hpoint,
    expect_self lenient (by decide : isBlank ':' = false), bind, Option.bind, pure]

end Timestamp

namespace Instant

open Timestamp

def written (instant : Instant) : Written :=
  let date := Date.ofDayNumber instant.dayNumber
  let second := instant.secondOfDay.toNat
  { year := date.year
    month := date.month
    day := date.day
    hour := second / 3600
    minute := second / 60 % 60
    second := second % 60 + if 1000000000 ≤ instant.nanos then 1 else 0
    nanos := instant.nanos % 1000000000 }

theorem toList_text (instant : Instant) :
    instant.text.toList =
      instant.written.dateText ++ 'T' :: (instant.written.clockText ++
        ((fractionText instant.written.nanos).toList ++ ['Z'])) := by
  have hdash : "-".toList = ['-'] := rfl
  have hcolon : ":".toList = [':'] := rfl
  have hletters : "T".toList = ['T'] ∧ "Z".toList = ['Z'] := ⟨rfl, rfl⟩
  simp only [text, written, Written.dateText, Written.clockText, String.toList_append, hdash,
    hcolon, hletters, List.append_assoc, List.cons_append, List.nil_append]

theorem secondOfDay_bounds (instant : Instant) :
    0 ≤ instant.secondOfDay ∧ instant.secondOfDay < 86400 :=
  ⟨Int.emod_nonneg _ (by decide), Int.emod_lt_of_pos _ (by decide)⟩

theorem written_bounds (instant : Instant) :
    Date.Valid ⟨instant.written.year, instant.written.month, instant.written.day⟩ ∧
      instant.written.hour < 24 ∧ instant.written.minute < 60 ∧ instant.written.second ≤ 60 ∧
        instant.written.nanos < 1000000000 := by
  obtain ⟨hlow, hhigh⟩ := instant.secondOfDay_bounds
  refine ⟨Date.valid_ofDayNumber instant.dayNumber, ?_, ?_, ?_, ?_⟩
  · simp only [written]
    omega
  · simp only [written]
    omega
  · simp only [written]
    split
    · omega
    · omega
  · simp only [written]
    omega

theorem fits_written (instant : Instant) : instant.written.Fits := by
  obtain ⟨⟨_, hmonth, _, hday⟩, hhour, hminute, hsecond, -⟩ := instant.written_bounds
  refine ⟨hmonth.trans_lt (by decide), hday.trans_lt ?_, hhour.trans (by decide),
    hminute.trans (by decide), hsecond.trans_lt (by decide)⟩
  unfold Date.daysInMonth
  split_ifs
  all_goals decide

/-- The fields that are written are those of the instant on a clock in UTC, and on a clock that is
ahead they are those of an earlier one. -/
theorem instant?_written {instant : Instant} (valid : instant.Valid) {ahead : Int}
    (hearlier : minSeconds ≤ instant.seconds - ahead)
    (hlater : instant.seconds - ahead ≤ maxSeconds) :
    instant.written.instant? ahead = some ⟨instant.seconds - ahead, instant.nanos⟩ := by
  obtain ⟨hdate, hhour, hminute, hsecond, -⟩ := instant.written_bounds
  obtain ⟨hlow, hhigh⟩ := instant.secondOfDay_bounds
  obtain ⟨hearliest, hlatest, hfraction⟩ := valid
  have hsum : instant.dayNumber * secondsPerDay + instant.secondOfDay = instant.seconds :=
    Int.ediv_mul_add_emod _ _
  have hminuteEnd : instant.secondOfDay % 60 = instant.seconds % 60 := by
    rw [secondOfDay, secondsPerDay]
    omega
  have hleap : instant.written.second = 60 ↔ 1000000000 ≤ instant.nanos := by
    simp only [written]
    split
    · omega
    · omega
  have hlast : (if instant.written.second = 60 then 59 else instant.written.second) =
      instant.secondOfDay.toNat % 60 := by
    simp only [hleap]
    simp only [written]
    split
    · omega
    · omega
  have hnanos : (if instant.written.second = 60 then instant.written.nanos + 1000000000
      else instant.written.nanos) = instant.nanos := by
    simp only [hleap]
    simp only [written]
    split
    · omega
    · omega
  have hseconds : Date.dayNumber
        ⟨instant.written.year, instant.written.month, instant.written.day⟩ * secondsPerDay +
      (instant.written.hour * 3600 + instant.written.minute * 60 +
        instant.secondOfDay.toNat % 60 : Nat) = instant.seconds := by
    change (Date.ofDayNumber instant.dayNumber).dayNumber * secondsPerDay +
      (instant.secondOfDay.toNat / 3600 * 3600 + instant.secondOfDay.toNat / 60 % 60 * 60 +
        instant.secondOfDay.toNat % 60 : Nat) = instant.seconds
    rw [Date.dayNumber_ofDayNumber, ← hsum]
    omega
  rw [Written.instant?, if_pos ⟨hdate, hhour, hminute, hsecond⟩]
  simp only [hlast, hnanos, hseconds, hearliest, hlatest, hearlier, hlater, and_self, if_true]

theorem instant?_written_zero {instant : Instant} (valid : instant.Valid) :
    instant.written.instant? 0 = some instant := by
  have hseconds := Int.sub_zero instant.seconds
  rw [instant?_written valid (hseconds.symm ▸ valid.earliest) (hseconds.symm ▸ valid.latest),
    hseconds]

theorem ofRelaxedText?_text {instant : Instant} (valid : instant.Valid) :
    ofRelaxedText? instant.text = some instant := by
  have hnanos := instant.written_bounds.2.2.2.2
  have hdate := looseDate_dateText lenient_trimStart instant.fits_written
  have htime := looseTime_clockText lenient_trimStart
    ⟨instant.written.year, instant.written.month, instant.written.day, 0, 0, 0, 0⟩
    instant.fits_written (fraction_fractionText hnanos) ['Z'] rfl (by decide)
  have hoffset : relaxedOffset (Text.trimStart ['Z']) = some (0, []) := by decide
  rw [ofRelaxedText?, toList_text]
  simp only [relaxed, hdate ('T' :: _) rfl, htime, hoffset, bind, Option.bind]
  exact instant?_written_zero valid

end Instant
end Verdict
