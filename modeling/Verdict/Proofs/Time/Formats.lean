import Verdict.Proofs.Time.Spelling

/-!
# The texts of an instant

An instant has many texts: on a clock ahead of UTC or behind it, with that offset; on a clock in
UTC, without one; and the bare date, if it is midnight.  What one of the three readers finds missing
is what the next one does without.
-/

namespace Verdict

namespace Timestamp

open Text

/-! ## Offsets -/

def hoursAndMinutes (minutes : Nat) : List Char :=
  (Decimal.padded 2 (minutes / 60)).toList ++ ':' :: (Decimal.padded 2 (minutes % 60)).toList

/-- Texts of an offset of so many minutes, less than a day: a letter for none, or hours and minutes
behind a sign. -/
inductive Zone : Int → List Char → Prop where
  | utc {c : Char} (h : c = 'Z' ∨ c = 'z') : Zone 0 [c]
  | ahead {minutes : Nat} (h : minutes < 1440) : Zone minutes ('+' :: hoursAndMinutes minutes)
  | behind {minutes : Nat} (h : minutes < 1440) : Zone (-minutes) ('-' :: hoursAndMinutes minutes)

theorem fixedNumber_padded {width value : Nat} (hwidth : 0 < width) (hvalue : value < 10 ^ width)
    (rest : List Char) :
    fixedNumber width ((Decimal.padded width value).toList ++ rest) = some (value, rest) := by
  have hlength := Decimal.length_padded hwidth hvalue
  have htaken : (((Decimal.padded width value).toList ++ rest).take width).takeWhile Char.isDigit =
      (Decimal.padded width value).toList := by
    have hall : ((Decimal.padded width value).toList ++ []).takeWhile Char.isDigit =
        (Decimal.padded width value).toList :=
      takeWhile_isDigit_append (Decimal.digits_padded width value) rfl
    rw [List.append_nil] at hall
    rw [List.take_left' hlength, hall]
  simp only [fixedNumber, htaken, hlength, if_true, Decimal.numeral_padded,
    List.drop_left' hlength]

theorem Zone.natAbs_lt {minutes : Int} {text : List Char} (h : Zone minutes text) :
    minutes.natAbs < 1440 := by
  cases h with
  | utc => decide
  | ahead h => exact h
  | behind h => rwa [Int.natAbs_neg]

theorem Zone.offset_eq {minutes : Int} {text : List Char} (h : Zone minutes text) :
    offset (expect ':') text = some (minutes * 60, []) := by
  have hfields : ∀ {minutes : Nat}, minutes < 1440 →
      fixedNumber 2 (hoursAndMinutes minutes) =
          some (minutes / 60, ':' :: (Decimal.padded 2 (minutes % 60)).toList) ∧
        fixedNumber 2 (Decimal.padded 2 (minutes % 60)).toList = some (minutes % 60, []) ∧
          ¬ 60 ≤ minutes % 60 ∧
            ((minutes / 60 : Nat) : Int) * 3600 + ((minutes % 60 : Nat) : Int) * 60 =
              minutes * 60 := by
    intro minutes h
    have hmore : fixedNumber 2 ((Decimal.padded 2 (minutes % 60)).toList ++ []) =
        some (minutes % 60, []) := fixedNumber_padded Nat.two_pos (by omega) []
    rw [List.append_nil] at hmore
    exact ⟨fixedNumber_padded Nat.two_pos (by omega) _, hmore, by omega, by omega⟩
  cases h with
  | utc h =>
      rcases h with rfl | rfl
      · rfl
      · rfl
  | @ahead minutes h =>
      obtain ⟨hhours, hminutes, hrange, hsum⟩ := hfields h
      simp only [offset, hhours, hminutes, hrange, hsum, expect, bind, Option.bind, if_true,
        if_false, Int.one_mul]
  | @behind minutes h =>
      obtain ⟨hhours, hminutes, hrange, hsum⟩ := hfields h
      simp only [offset, hhours, hminutes, hrange, hsum, expect, bind, Option.bind, if_true,
        if_false, Int.neg_mul, Int.one_mul]

theorem Zone.unbroken {minutes : Int} {text : List Char} (h : Zone minutes text) :
    Unbroken text := by
  have hfields : ∀ c, isBlank c = false → ∀ minutes, Unbroken (c :: hoursAndMinutes minutes) := by
    intro c hc minutes
    have hminutes := (unbroken_singleton (c := ':') rfl).append
      (Decimal.unbroken_padded 2 (minutes % 60)).ink
    have hall := (Decimal.unbroken_padded 2 (minutes / 60)).append hminutes.ink
    exact ⟨List.cons_ne_nil _ _, List.forall_mem_cons.mpr ⟨hc, hall.ink⟩⟩
  cases h with
  | utc h =>
      rcases h with rfl | rfl
      · exact unbroken_singleton rfl
      · exact unbroken_singleton rfl
  | ahead => exact hfields '+' rfl _
  | behind => exact hfields '-' rfl _

/-- Behind a fraction, an offset is neither more digits nor another point. -/
theorem Zone.stops {minutes : Int} {text : List Char} (h : Zone minutes text) :
    text.takeWhile Char.isDigit = [] ∧ text.head? ≠ some '.' := by
  cases h with
  | utc h =>
      rcases h with rfl | rfl
      · exact ⟨rfl, by decide⟩
      · exact ⟨rfl, by decide⟩
  | ahead => exact ⟨rfl, by simp⟩
  | behind => exact ⟨rfl, by simp⟩

/-! ## Fields of fixed width -/

theorem yearText_of_sign {year : Int} (hyear : ¬ (0 ≤ year ∧ year ≤ 9999)) :
    ∃ sign, (sign = '-' ∨ sign = '+') ∧
      (Instant.yearText year).toList = sign :: (Decimal.padded 4 year.natAbs).toList := by
  have hminus : "-".toList = ['-'] := rfl
  have hplus : "+".toList = ['+'] := rfl
  rw [Instant.yearText, if_neg hyear, String.toList_append]
  split_ifs
  · exact ⟨'-', Or.inl rfl, by rw [hminus, List.singleton_append]⟩
  · exact ⟨'+', Or.inr rfl, by rw [hplus, List.singleton_append]⟩

section Strict

variable {written : Written} (fits : written.Fits)
include fits

theorem strict_append (hyear : 0 ≤ written.year ∧ written.year ≤ 9999) {separator : Char}
    (hseparator : separator = 'T' ∨ separator = 't' ∨ separator = ' ') {decimals : List Char}
    (hdecimals : Fraction written.nanos decimals) {rest : List Char}
    (hrest : rest.takeWhile Char.isDigit = []) (hpoint : rest.head? ≠ some '.') :
    strict (written.dateText ++ separator :: (written.clockText ++ (decimals ++ rest))) =
      (offset (expect ':') rest).bind fun (ahead, rest) =>
        if rest.isEmpty ∧ ahead.natAbs < 86400 then written.instant? ahead else none := by
  have hfour : written.year.natAbs < 10 ^ 4 := by omega
  have hcast : (written.year.natAbs : Int) = written.year := Int.natAbs_of_nonneg hyear.1
  have hfraction := hdecimals.fraction_append hrest hpoint
  rcases hseparator with rfl | rfl | rfl
  all_goals
    simp only [Written.dateText, Written.clockText, Instant.yearText, if_pos hyear,
      List.append_assoc, List.cons_append, strict, expect, if_true,
      fixedNumber_padded (by decide : 0 < 4) hfour, fixedNumber_padded Nat.two_pos fits.month,
      fixedNumber_padded Nat.two_pos fits.day, fixedNumber_padded Nat.two_pos fits.hour,
      fixedNumber_padded Nat.two_pos fits.minute, fixedNumber_padded Nat.two_pos fits.second,
      hfraction, hcast, bind, Option.bind]

omit fits in
theorem strict_eq_none_of_sign (hyear : ¬ (0 ≤ written.year ∧ written.year ≤ 9999))
    (rest : List Char) : strict (written.dateText ++ rest) = none := by
  obtain ⟨sign, hsign, htext⟩ := yearText_of_sign hyear
  have hnumber : ∀ text, fixedNumber 4 (sign :: text) = none := by
    intro text
    have htaken : ((sign :: text).take 4).takeWhile Char.isDigit = [] := by
      rcases hsign with rfl | rfl
      · rfl
      · rfl
    rw [fixedNumber, htaken]
    rfl
  simp only [Written.dateText, htext, List.cons_append, strict, hnumber, bind, Option.bind]

theorem strict_dateText : strict written.dateText = none := by
  by_cases hyear : 0 ≤ written.year ∧ written.year ≤ 9999
  · have hfour : written.year.natAbs < 10 ^ 4 := by omega
    have hday := fixedNumber_padded Nat.two_pos fits.day []
    rw [List.append_nil] at hday
    simp only [Written.dateText, Instant.yearText, if_pos hyear, strict, expect, if_true,
      fixedNumber_padded (by decide : 0 < 4) hfour, fixedNumber_padded Nat.two_pos fits.month,
      hday, bind, Option.bind]
  · have hsign := strict_eq_none_of_sign hyear []
    rwa [List.append_nil] at hsign

theorem strict_naive {separator : Char} (hseparator : separator = 'T' ∨ separator = ' ')
    {decimals : List Char} (hdecimals : Fraction written.nanos decimals) :
    strict (written.dateText ++ separator :: (written.clockText ++ decimals)) = none := by
  by_cases hyear : 0 ≤ written.year ∧ written.year ≤ 9999
  · have hread : strict (written.dateText ++
        separator :: (written.clockText ++ (decimals ++ []))) = none :=
      strict_append fits hyear (hseparator.imp_right Or.inr) hdecimals rfl (by decide)
    rwa [List.append_nil] at hread
  · exact strict_eq_none_of_sign hyear _

end Strict

/-! ## Fields of free width -/

section Local

variable {written : Written} (fits : written.Fits)
include fits

theorem looseDate_dateText_nil :
    looseDate id written.dateText =
      some (⟨written.year, written.month, written.day, 0, 0, 0, 0⟩, []) := by
  have hdate := looseDate_dateText (fun _ _ _ => rfl : Lenient id) fits [] rfl
  rwa [List.append_nil] at hdate

theorem localTime_naive {separator : Char} (hseparator : separator = 'T' ∨ separator = ' ')
    {decimals : List Char} (hdecimals : Fraction written.nanos decimals) :
    localTime (written.dateText ++ separator :: (written.clockText ++ decimals)) =
      written.instant? 0 := by
  have lenient : Lenient id := fun _ _ _ => rfl
  have htime := looseTime_clockText lenient
    ⟨written.year, written.month, written.day, 0, 0, 0, 0⟩ fits hdecimals [] rfl (by decide)
  rw [List.append_nil] at htime
  rcases hseparator with rfl | rfl
  · simp only [localTime, looseDate_dateText lenient fits ('T' :: _) rfl, htime, bind, Option.bind,
      List.isEmpty_nil, if_true]
  · have hskipped : ∀ text, looseNumber 2 (' ' :: text) = looseNumber 2 text := by
      intro text
      rw [looseNumber, trimStart_cons_of_isBlank (by decide), looseNumber]
    have hblank : ∀ date text, looseTime id date (' ' :: text) = looseTime id date text := by
      intro date text
      rw [looseTime, hskipped, looseTime]
    simp only [localTime, looseDate_dateText lenient fits (' ' :: _) rfl, List.cons.injEq,
      Char.reduceEq, false_and, imp_false, not_false_eq_true, implies_true, hblank, htime, bind,
      Option.bind, List.isEmpty_nil, if_true]

theorem localTime_dateText : localTime written.dateText = none := by
  rw [localTime, looseDate_dateText_nil fits]
  rfl

theorem localDate_dateText :
    localDate written.dateText =
      Written.instant? ⟨written.year, written.month, written.day, 0, 0, 0, 0⟩ 0 := by
  rw [localDate, looseDate_dateText_nil fits]
  rfl

end Local

end Timestamp

/-! ## Texts of an instant -/

namespace Instant

open Timestamp Text

/-- The fields of an instant on a clock so many minutes ahead of UTC. -/
def fieldsAhead (instant : Instant) (minutes : Int) : Written :=
  written ⟨instant.seconds + minutes * 60, instant.nanos⟩

/-- Texts of an instant, without blanks around them. -/
inductive HasText (instant : Instant) : List Char → Prop where
  /-- Date and time of day on a clock so many minutes ahead, in a year of four digits, and how far
  it is ahead. -/
  | zoned {minutes : Int} {separator : Char} {decimals zone : List Char}
      (hyear : 0 ≤ (instant.fieldsAhead minutes).year ∧ (instant.fieldsAhead minutes).year ≤ 9999)
      (hseparator : separator = 'T' ∨ separator = 't' ∨ separator = ' ')
      (hdecimals : Fraction instant.nanos decimals) (hzone : Zone minutes zone) :
      HasText instant ((instant.fieldsAhead minutes).dateText ++
        separator :: ((instant.fieldsAhead minutes).clockText ++ (decimals ++ zone)))
  | naive {separator : Char} {decimals : List Char}
      (hseparator : separator = 'T' ∨ separator = ' ')
      (hdecimals : Fraction instant.nanos decimals) :
      HasText instant
        (instant.written.dateText ++ separator :: (instant.written.clockText ++ decimals))
  | midnight (hclock : instant.secondOfDay = 0) (hnanos : instant.nanos = 0) :
      HasText instant instant.written.dateText

variable {instant : Instant}

theorem valid_of_year (hnanos : instant.nanos < 1000000000)
    (hyear : 0 ≤ instant.written.year ∧ instant.written.year ≤ 9999) :
    (-100000000000 ≤ instant.seconds ∧ instant.seconds ≤ 300000000000) ∧ instant.Valid := by
  have hdays := Date.dayNumber_bounds (Date.valid_ofDayNumber instant.dayNumber) hyear
  rw [Date.dayNumber_ofDayNumber] at hdays
  have hrange : -100000000000 ≤ instant.seconds ∧ instant.seconds ≤ 300000000000 := by
    simp only [dayNumber, secondsPerDay] at hdays
    omega
  refine ⟨hrange, ?_, ?_, Or.inl hnanos⟩
  · exact (by decide : minSeconds ≤ -100000000000).trans hrange.1
  · exact hrange.2.trans (by decide)

theorem instant?_fieldsAhead (hnanos : instant.nanos < 1000000000) {minutes : Int}
    (hminutes : minutes.natAbs < 1440)
    (hyear : 0 ≤ (instant.fieldsAhead minutes).year ∧ (instant.fieldsAhead minutes).year ≤ 9999) :
    (instant.fieldsAhead minutes).instant? (minutes * 60) = some instant := by
  obtain ⟨⟨hlow, hhigh⟩, valid⟩ :=
    @valid_of_year ⟨instant.seconds + minutes * 60, instant.nanos⟩ hnanos hyear
  have hback : instant.seconds + minutes * 60 - minutes * 60 = instant.seconds :=
    Int.add_sub_cancel _ _
  simp only at hlow hhigh
  rw [fieldsAhead, instant?_written valid]
  · simp only [hback]
  · simp only [hback, minSeconds]
    omega
  · simp only [hback, maxSeconds]
    omega

theorem unbroken_yearText (year : Int) : Unbroken (yearText year).toList := by
  have hdigits := Decimal.unbroken_padded 4 year.natAbs
  by_cases hyear : 0 ≤ year ∧ year ≤ 9999
  · rw [yearText, if_pos hyear]
    exact hdigits
  · obtain ⟨sign, hsign, htext⟩ := yearText_of_sign hyear
    have hink : isBlank sign = false := by
      rcases hsign with rfl | rfl
      · rfl
      · rfl
    rw [htext]
    exact ⟨List.cons_ne_nil _ _, List.forall_mem_cons.mpr ⟨hink, hdigits.ink⟩⟩

theorem nanos_written (hnanos : instant.nanos < 1000000000) :
    instant.written.nanos = instant.nanos :=
  Nat.mod_eq_of_lt hnanos

/-- One of the three readers reads the text, and those before it do not. -/
theorem HasText.read_eq {text : List Char} (h : instant.HasText text) (valid : instant.Valid)
    (hnanos : instant.nanos < 1000000000) :
    (strict text).or ((localTime text).or (localDate text)) = some instant := by
  cases h with
  | @zoned minutes separator decimals zone hyear hseparator hdecimals hzone =>
      have fits : (instant.fieldsAhead minutes).Fits := fits_written _
      have hfields : (instant.fieldsAhead minutes).nanos = instant.nanos := nanos_written hnanos
      obtain ⟨hdigit, hpoint⟩ := hzone.stops
      have hread := strict_append fits hyear hseparator (hfields.symm ▸ hdecimals) hdigit hpoint
      have hminutes := hzone.natAbs_lt
      have hahead : (minutes * 60).natAbs < 86400 := by omega
      rw [hzone.offset_eq, Option.bind_some] at hread
      simp only [List.isEmpty_nil, hahead, and_self, if_true,
        instant?_fieldsAhead hnanos hminutes hyear] at hread
      rw [hread, Option.some_or]
  | naive hseparator hdecimals =>
      have fits := instant.fits_written
      have hfields : Fraction instant.written.nanos _ := (nanos_written hnanos).symm ▸ hdecimals
      rw [strict_naive fits hseparator hfields, Option.none_or,
        localTime_naive fits hseparator hfields, instant?_written_zero valid, Option.some_or]
  | midnight hclock hnone =>
      have fits := instant.fits_written
      have hfields : Written.instant?
          ⟨instant.written.year, instant.written.month, instant.written.day, 0, 0, 0, 0⟩ 0 =
            instant.written.instant? 0 := by
        simp [written, hclock, hnone]
      rw [strict_dateText fits, Option.none_or, localTime_dateText fits, Option.none_or,
        localDate_dateText fits, hfields, instant?_written_zero valid]

theorem trimStart_dateText (written : Written) (rest : List Char) :
    trimStart (written.dateText ++ rest) = written.dateText ++ rest := by
  rw [Written.dateText, List.append_assoc]
  exact (unbroken_yearText written.year).trimStart_append _

theorem trimEnd_dateText (written : Written) : trimEnd written.dateText = written.dateText := by
  have hend := (Decimal.unbroken_padded 2 written.day).trimEnd_append
    ((yearText written.year).toList ++ '-' :: ((Decimal.padded 2 written.month).toList ++ ['-']))
  simpa only [Written.dateText, List.append_assoc, List.cons_append, List.nil_append] using hend

theorem trimEnd_clockText (front : List Char) (written : Written) {nanos : Nat}
    {decimals : List Char} (hdecimals : Fraction nanos decimals) :
    trimEnd (front ++ (written.clockText ++ decimals)) =
      front ++ (written.clockText ++ decimals) := by
  have hend := ((Decimal.unbroken_padded 2 written.second).append hdecimals.ink).trimEnd_append
    (front ++ ((Decimal.padded 2 written.hour).toList ++
      ':' :: ((Decimal.padded 2 written.minute).toList ++ [':'])))
  simpa only [Written.clockText, List.append_assoc, List.cons_append, List.nil_append] using hend

theorem HasText.trim_surrounded {text : List Char} (h : instant.HasText text)
    {before after : List Char} (hbefore : ∀ c ∈ before, isBlank c = true)
    (hafter : ∀ c ∈ after, isBlank c = true) : trim (before ++ (text ++ after)) = text := by
  refine Text.trim_surrounded hbefore hafter (fun rest => ?_) ?_
  · cases h with
    | zoned => rw [List.append_assoc, trimStart_dateText]
    | naive => rw [List.append_assoc, trimStart_dateText]
    | midnight => rw [trimStart_dateText]
  · cases h with
    | @zoned minutes separator decimals zone _ _ _ hzone =>
        have hend := hzone.unbroken.trimEnd_append ((instant.fieldsAhead minutes).dateText ++
          separator :: ((instant.fieldsAhead minutes).clockText ++ decimals))
        simpa only [List.append_assoc, List.cons_append] using hend
    | @naive separator decimals _ hdecimals =>
        have hend := trimEnd_clockText (instant.written.dateText ++ [separator]) instant.written
          hdecimals
        simpa only [List.append_assoc, List.singleton_append] using hend
    | midnight => exact trimEnd_dateText instant.written

theorem ofText?_of_hasText {text : List Char} (h : instant.HasText text) (valid : instant.Valid)
    (hnanos : instant.nanos < 1000000000) {before after : List Char}
    (hbefore : ∀ c ∈ before, isBlank c = true) (hafter : ∀ c ∈ after, isBlank c = true) :
    ofText? (String.ofList (before ++ (text ++ after))) = some instant := by
  rw [ofText?, String.toList_ofList, h.trim_surrounded hbefore hafter]
  exact h.read_eq valid hnanos

end Instant
end Verdict
