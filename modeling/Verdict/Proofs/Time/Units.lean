import Verdict.Time.Duration
import Verdict.Proofs.Text.Digits

/-!
# Durations are read as they are written

What remains behind a unit is less than the unit, so the units are graded: each one has a limit that
is the unit before it.  The seconds stay within 64 bits because the duration does, and the
nanoseconds because the units that are shorter than a second come behind the second.
-/

namespace Verdict.Duration

open Text

/-! ## Units -/

def Unit.length (unit : Unit) : Nat :=
  unit.seconds * secondNanos + unit.nanos

structure Spelled (name : List Char) (unit : Unit) : Prop where
  letters : ∀ c ∈ name, isUnitChar c = true
  read : Unit.ofName? name = some unit

theorem Spelled.of_all {name : List Char} {unit : Unit} (letters : name.all isUnitChar = true)
    (read : Unit.ofName? name = some unit) : Spelled name unit :=
  ⟨List.all_eq_true.mp letters, read⟩

/-- Units for what is less than a limit: the first one can be read in both numbers, it is counted in
seconds unless the limit is a second at most, and the others are units for what is less than it. -/
inductive Graded : Nat → List (String × Nat × Bool) → Prop where
  | nil : Graded 1 []
  | cons {limit size : Nat} {name : String} {hasPlural : Bool}
      {rest : List (String × Nat × Bool)} (unit : Unit) (length : unit.length = size)
      (pos : 0 < size) (short : unit.nanos ≠ 0 → limit ≤ secondNanos)
      (singular : Spelled name.toList unit)
      (plural : hasPlural = true → Spelled (name ++ "s").toList unit) (further : Graded size rest) :
      Graded limit ((name, size, hasPlural) :: rest)

theorem graded_units : Graded (2 ^ 64 * secondNanos) units := by
  refine .cons (.coarse 31557600) rfl (by decide) nofun (.of_all rfl rfl)
    (fun _ => .of_all rfl rfl) ?_
  refine .cons (.coarse 2630016) rfl (by decide) nofun (.of_all rfl rfl)
    (fun _ => .of_all rfl rfl) ?_
  refine .cons (.coarse 86400) rfl (by decide) nofun (.of_all rfl rfl)
    (fun _ => .of_all rfl rfl) ?_
  refine .cons (.coarse 3600) rfl (by decide) nofun (.of_all rfl rfl) nofun ?_
  refine .cons (.fine 60) rfl (by decide) nofun (.of_all rfl rfl) nofun ?_
  refine .cons (.fine 1) rfl (by decide) nofun (.of_all rfl rfl) nofun ?_
  refine .cons (.ofNanos 1000000) rfl (by decide) (fun _ => Nat.le_refl _) (.of_all rfl rfl)
    nofun ?_
  refine .cons (.ofNanos 1000) rfl (by decide) (fun _ => by decide) (.of_all rfl rfl) nofun ?_
  exact .cons ⟨0, 1, 0, 0⟩ rfl (by decide) (fun _ => by decide) (.of_all rfl rfl) nofun .nil

/-! ## One part -/

theorem word?_of_lt {value : Nat} (h : value < 2 ^ 64) : word? value = some value :=
  if_pos h

theorem isNumberChar_of_isDigit {c : Char} (h : c.isDigit = true) : isNumberChar c = true := by
  rw [isNumberChar, h, Bool.true_or]

theorem not_isNumberChar_of_isUnitChar {c : Char} (h : isUnitChar c = true) :
    isNumberChar c = false ∧ c ≠ '.' := by
  have hrange : 65 ≤ c.toNat ∧ c.toNat ≤ 90 ∨ 97 ≤ c.toNat ∧ c.toNat ≤ 122 ∨ c.toNat = 181 := by
    rw [isUnitChar, Bool.or_eq_true, beq_iff_eq] at h
    rcases h with halpha | rfl
    · have hcase : (c.isUpper || c.isLower) = true := halpha
      rcases Bool.or_eq_true_iff.mp hcase with hupper | hlower
      · exact Or.inl (of_decide_eq_true hupper)
      · obtain ⟨hleast, hmost⟩ := Bool.and_eq_true_iff.mp hlower
        exact Or.inr (Or.inl ⟨of_decide_eq_true hleast, of_decide_eq_true hmost⟩)
    · decide
  refine ⟨?_, ?_⟩
  · simp only [isNumberChar, isBlank, Char.isDigit, UInt32.le_iff_toNat_le,
      Bool.or_eq_false_iff, Bool.and_eq_false_iff, decide_eq_false_iff_not, beq_eq_false_iff_ne]
    change (¬ 48 ≤ c.toNat ∨ ¬ c.toNat ≤ 57) ∧ _
    omega
  · rintro rfl
    exact absurd hrange (by decide)

theorem digits_append {number name : List Char} (hnumber : Digits number)
    (hname : ∀ c ∈ name.head?, isNumberChar c = false) :
    digits (number ++ name) = (number.map digitValue, name) := by
  have hall : ∀ c ∈ number, isNumberChar c = true := by
    intro c hc
    exact isNumberChar_of_isDigit (hnumber c hc)
  have hstop : name.takeWhile isNumberChar = [] ∧ name.dropWhile isNumberChar = name := by
    cases name with
    | nil => exact ⟨rfl, rfl⟩
    | cons c rest =>
        have hc := hname c rfl
        exact ⟨by simp [hc], by simp [hc]⟩
  rw [digits, List.takeWhile_append_of_pos hall, List.dropWhile_append_of_pos hall, hstop.1,
    hstop.2, List.append_nil, List.filter_eq_self.mpr hnumber]

theorem number?_toDigits {count : Nat} (h : count < 2 ^ 64) :
    number? ((Nat.toDigits 10 count).map digitValue) = some count := by
  rw [number?, List.foldl_map]
  have hnumeral : (Nat.toDigits 10 count).foldl (fun total c => total * 10 + digitValue c) 0 =
      count := numeral_toDigits count
  rw [hnumeral, word?_of_lt h]

theorem digits_toDigits (count : Nat) : Digits (Nat.toDigits 10 count) := by
  intro c hc
  exact Nat.isDigit_of_mem_toDigits (by decide) (by decide) hc

theorem Spelled.exists_cons {name : List Char} {unit : Unit} (h : Spelled name unit) :
    ∃ c rest, name = c :: rest ∧ isUnitChar c = true := by
  obtain ⟨hletters, hread⟩ := h
  cases name with
  | nil => cases hread
  | cons c rest => exact ⟨c, rest, rfl, hletters c List.mem_cons_self⟩

theorem fraction?_of_ne {c : Char} (h : c ≠ '.') (rest : List Char) :
    fraction? (c :: rest) = some ([], c :: rest) := by
  unfold fraction?
  split
  · next heq =>
    cases heq
    exact absurd rfl h
  · rfl

/-- A number with its unit is added, and reading goes on behind the name of the unit. -/
theorem sum?_part {count : Nat} {name rest : List Char} {unit : Unit} (hcount : count < 2 ^ 64)
    (spelled : Spelled name unit) (hrest : rest.takeWhile isUnitChar = []) (fuel : Nat)
    (total : Duration) :
    sum? (fuel + 1) total (' ' :: (Nat.toDigits 10 count ++ (name ++ rest))) =
      (total.addWhole? count unit).bind fun total => sum? fuel total rest := by
  obtain ⟨letter, letters, hletters, hletter⟩ := spelled.exists_cons
  obtain ⟨hnumberEnd, hpoint⟩ := not_isNumberChar_of_isUnitChar hletter
  have hfraction : fraction? (name ++ rest) = some ([], name ++ rest) := by
    rw [hletters, List.cons_append]
    exact fraction?_of_ne hpoint _
  have htaken : (name ++ rest).takeWhile isUnitChar = name := by
    rw [List.takeWhile_append_of_pos spelled.letters, hrest, List.append_nil]
  have hdropped : (name ++ rest).dropWhile isUnitChar = rest := by
    have h := List.takeWhile_append_dropWhile (p := isUnitChar) (l := name ++ rest)
    rw [htaken] at h
    exact List.append_cancel_left h
  have hdigits : digits (Nat.toDigits 10 count ++ (name ++ rest)) =
      ((Nat.toDigits 10 count).map digitValue, name ++ rest) := by
    apply digits_append (digits_toDigits count)
    intro c hc
    rw [hletters] at hc
    cases hc
    exact hnumberEnd
  have htrim : trimStart (' ' :: (Nat.toDigits 10 count ++ (name ++ rest))) =
      Nat.toDigits 10 count ++ (name ++ rest) := by
    rw [trimStart_cons_of_isBlank rfl]
    exact (unbroken_of_digits (digits_toDigits count) Nat.toDigits_ne_nil).trimStart_append _
  have hnumber := number?_toDigits hcount
  have hfirst := digits_toDigits count
  cases hwhole : Nat.toDigits 10 count with
  | nil => exact absurd hwhole Nat.toDigits_ne_nil
  | cons digit others =>
      rw [hwhole] at hdigits htrim hnumber hfirst
      have hdigit : digit.isDigit = true := hfirst digit List.mem_cons_self
      rw [List.cons_append] at hdigits htrim
      rw [sum?.eq_def]
      have hwholeOnly : word? (powerOfTen ([] : List Nat).length) = some 1 := rfl
      simp only [List.cons_append, htrim, hdigit, if_true, hdigits, hnumber, hfraction,
        Option.bind_eq_bind, Option.bind_some, hwholeOnly, htaken, spelled.read, List.isEmpty_nil,
        hdropped]

theorem addWhole?_eq {total : Duration} {count : Nat} {unit : Unit}
    (hseconds : (total.nanos + count * unit.length) / secondNanos < 2 ^ 64)
    (hnanos : count * unit.nanos ≤ secondNanos) :
    total.addWhole? count unit = some ⟨total.nanos + count * unit.length⟩ := by
  have hsplit : count * unit.length =
      count * unit.seconds * secondNanos + count * unit.nanos := by
    rw [Unit.length, Nat.mul_add, Nat.mul_assoc]
  rw [hsplit] at hseconds ⊢
  rw [addWhole?]
  generalize count * unit.seconds = seconds at hseconds ⊢
  generalize count * unit.nanos = nanos at hseconds hnanos ⊢
  have hsecond : secondNanos = 1000000000 := rfl
  have hpos : 0 < secondNanos := by decide
  have hsubsecond : total.subsecondNanos < secondNanos := Nat.mod_lt _ hpos
  have hsum : (total.seconds + seconds) * secondNanos + (total.subsecondNanos + nanos) =
      total.nanos + (seconds * secondNanos + nanos) := by
    have htotal : total.seconds * secondNanos + total.subsecondNanos = total.nanos :=
      Nat.div_add_mod' _ _
    rw [Nat.add_mul]
    omega
  have hle : seconds ≤ (total.nanos + (seconds * secondNanos + nanos)) / secondNanos :=
    (Nat.le_div_iff_mul_le hpos).mpr (by omega)
  have hwhole : word? seconds = some seconds := word?_of_lt (Nat.lt_of_le_of_lt hle hseconds)
  have hfine : word? nanos = some nanos := word?_of_lt (by omega)
  have hcarried : word? (total.subsecondNanos + nanos) = some (total.subsecondNanos + nanos) :=
    word?_of_lt (by omega)
  have hfits : word? (Duration.seconds ⟨total.nanos + (seconds * secondNanos + nanos)⟩) =
      some ((total.nanos + (seconds * secondNanos + nanos)) / secondNanos) :=
    word?_of_lt hseconds
  have hextend : total.extend? seconds nanos =
      some ⟨total.nanos + (seconds * secondNanos + nanos)⟩ := by
    rw [extend?, hcarried, Option.bind_eq_bind, Option.bind_some, hsum]
    dsimp only
    rw [hfits, Option.bind_some, Option.pure_def]
  rw [hwhole, hfine, Option.bind_eq_bind, Option.bind_some, Option.bind_some, hextend]

/-! ## All parts -/

def spaced (parts : List String) : List Char :=
  parts.flatMap fun part => ' ' :: part.toList

theorem takeWhile_spaced (parts : List String) : (spaced parts).takeWhile isUnitChar = [] := by
  cases parts with
  | nil => rfl
  | cons part rest => rfl

theorem toList_intercalate (part : String) (rest : List String) :
    (" ".intercalate (part :: rest)).toList = part.toList ++ spaced rest := by
  induction rest generalizing part with
  | nil => simp [spaced]
  | cons next others ih =>
      rw [String.intercalate_cons_cons, String.toList_append, ih, String.toList_append,
        List.append_assoc]
      rfl

theorem spaced_cons (number : Nat) (spelling : String) (rest : List String) :
    spaced ((Nat.repr number ++ spelling) :: rest) =
      ' ' :: (Nat.toDigits 10 number ++ (spelling.toList ++ spaced rest)) := by
  rw [spaced, List.flatMap_cons, String.toList_append, Nat.toList_repr, List.cons_append,
    List.append_assoc]
  rfl

theorem parts_cons_of_div_eq_zero {nanos size : Nat} (h : nanos / size = 0) {name : String}
    {hasPlural : Bool} {rest : List (String × Nat × Bool)} :
    parts nanos ((name, size, hasPlural) :: rest) = parts nanos rest :=
  if_pos h

theorem exists_parts_eq_cons {nanos size : Nat} {name : String} {hasPlural : Bool} {unit : Unit}
    (singular : Spelled name.toList unit)
    (plural : hasPlural = true → Spelled (name ++ "s").toList unit) (some : nanos / size ≠ 0)
    (rest : List (String × Nat × Bool)) :
    ∃ spelling, Spelled spelling.toList unit ∧
      parts nanos ((name, size, hasPlural) :: rest) =
        (Nat.repr (nanos / size) ++ spelling) :: parts (nanos % size) rest := by
  have hparts : ∀ ending, (if hasPlural && nanos / size ≠ 1 then "s" else "") = ending →
      parts nanos ((name, size, hasPlural) :: rest) =
        (Nat.repr (nanos / size) ++ (name ++ ending)) :: parts (nanos % size) rest := by
    rintro ending rfl
    rw [← String.append_assoc]
    exact if_neg some
  by_cases hmany : (hasPlural && nanos / size ≠ 1) = true
  · have hplural : hasPlural = true := (Bool.and_eq_true_iff.mp hmany).1
    exact ⟨name ++ "s", plural hplural, hparts "s" (if_pos hmany)⟩
  · refine ⟨name, singular, ?_⟩
    rw [hparts "" (if_neg hmany), String.append_empty]

theorem count_lt {total : Duration} {count : Nat} {unit : Unit} (pos : 0 < unit.length)
    (hseconds : (total.nanos + count * unit.length) / secondNanos < 2 ^ 64)
    (hnanos : count * unit.nanos ≤ secondNanos) : count < 2 ^ 64 := by
  have hsecond : secondNanos = 1000000000 := rfl
  by_cases hzero : unit.seconds = 0
  · have hlength : unit.length = unit.nanos := by
      rw [Unit.length, hzero, Nat.zero_mul, Nat.zero_add]
    have hcount : count ≤ count * unit.nanos := Nat.le_mul_of_pos_right count (hlength ▸ pos)
    omega
  · have hlong : secondNanos ≤ unit.length := by
      have hone := Nat.le_mul_of_pos_left secondNanos (Nat.pos_of_ne_zero hzero)
      exact Nat.le_trans hone (Nat.le_add_right _ _)
    have hcount : count * secondNanos ≤ total.nanos + count * unit.length :=
      Nat.le_trans (Nat.mul_le_mul_left count hlong) (Nat.le_add_left _ _)
    exact Nat.lt_of_le_of_lt ((Nat.le_div_iff_mul_le (by decide)).mpr hcount) hseconds

/-- All parts together are what they have been made of. -/
theorem sum?_parts {limit : Nat} {units : List (String × Nat × Bool)} (graded : Graded limit units)
    {nanos : Nat} (hlimit : nanos < limit) {total : Duration}
    (hfits : (total.nanos + nanos) / secondNanos < 2 ^ 64) {fuel : Nat}
    (hfuel : (parts nanos units).length ≤ fuel) :
    sum? fuel total (spaced (parts nanos units)) = some ⟨total.nanos + nanos⟩ := by
  induction graded generalizing nanos total fuel with
  | nil =>
      obtain rfl : nanos = 0 := Nat.lt_one_iff.mp hlimit
      cases fuel with
      | zero => rfl
      | succ fuel => rfl
  | @cons limit size name hasPlural rest unit length pos short singular plural further ih =>
      by_cases hzero : nanos / size = 0
      · rw [parts_cons_of_div_eq_zero hzero] at hfuel ⊢
        exact ih (Nat.lt_of_div_eq_zero pos hzero) hfits hfuel
      · obtain ⟨spelling, spelled, hparts⟩ := exists_parts_eq_cons singular plural hzero rest
        rw [hparts] at hfuel ⊢
        subst length
        have hsplit : nanos / unit.length * unit.length + nanos % unit.length = nanos :=
          Nat.div_add_mod' _ _
        generalize nanos / unit.length = count at hsplit ⊢
        generalize hrest : nanos % unit.length = remaining at hsplit hfuel ⊢
        have hremaining : remaining < unit.length := hrest ▸ Nat.mod_lt _ pos
        have hwithin : (total.nanos + count * unit.length) / secondNanos < 2 ^ 64 :=
          Nat.lt_of_le_of_lt (Nat.div_le_div_right (by omega)) hfits
        have hnanos : count * unit.nanos ≤ secondNanos := by
          by_cases hfine : unit.nanos = 0
          · rw [hfine]
            exact Nat.zero_le _
          · have hpart : count * unit.nanos ≤ count * unit.length :=
              Nat.mul_le_mul_left count (Nat.le_add_left _ _)
            have hshort := short hfine
            omega
        cases fuel with
        | zero => exact absurd hfuel (Nat.not_succ_le_zero _)
        | succ fuel =>
            rw [spaced_cons, sum?_part (count_lt pos hwithin hnanos) spelled (takeWhile_spaced _),
              addWhole?_eq hwithin hnanos, Option.bind_some]
            have hsum : total.nanos + count * unit.length + remaining = total.nanos + nanos := by
              omega
            have hlast : sum? fuel ⟨total.nanos + count * unit.length⟩
                (spaced (parts remaining rest)) =
                  some ⟨total.nanos + count * unit.length + remaining⟩ := by
              apply ih hremaining
              · rw [hsum]
                exact hfits
              · exact Nat.le_of_succ_le_succ hfuel
            rw [hlast, hsum]

theorem exists_digit_of_mem_parts {limit : Nat} {units : List (String × Nat × Bool)}
    (graded : Graded limit units) {nanos : Nat} {part : String}
    (member : part ∈ parts nanos units) :
    ∃ digit c rest, part.toList = digit :: c :: rest ∧ digit.isDigit = true := by
  induction graded generalizing nanos with
  | nil => cases member
  | @cons limit size name hasPlural rest unit length pos short singular plural further ih =>
      by_cases hzero : nanos / size = 0
      · rw [parts_cons_of_div_eq_zero hzero] at member
        exact ih member
      · obtain ⟨spelling, spelled, hparts⟩ := exists_parts_eq_cons singular plural hzero rest
        rw [hparts, List.mem_cons] at member
        rcases member with rfl | hrest
        · obtain ⟨letter, letters, hspelling, -⟩ := spelled.exists_cons
          have hdigits := digits_toDigits (nanos / size)
          rw [String.toList_append, Nat.toList_repr, hspelling]
          cases hnumber : Nat.toDigits 10 (nanos / size) with
          | nil => exact absurd hnumber Nat.toDigits_ne_nil
          | cons digit others =>
              rw [hnumber] at hdigits
              have hdigit := hdigits digit List.mem_cons_self
              cases others with
              | nil => exact ⟨digit, letter, letters, rfl, hdigit⟩
              | cons c more => exact ⟨digit, c, more ++ letter :: letters, rfl, hdigit⟩
        · exact ih hrest

theorem length_le_length_spaced (parts : List String) : parts.length ≤ (spaced parts).length := by
  induction parts with
  | nil => exact Nat.le_refl 0
  | cons part rest ih =>
      rw [spaced, List.flatMap_cons, List.length_append, List.length_cons, List.length_cons]
      rw [spaced] at ih
      omega

theorem sum?_blank (fuel : Nat) (total : Duration) (text : List Char) :
    sum? fuel total (' ' :: text) = sum? fuel total text := by
  have htrim : trimStart (' ' :: text) = trimStart text := trimStart_cons_of_isBlank rfl
  rw [sum?.eq_def, sum?.eq_def fuel total text, htrim]

theorem sum?_spaced_parts {nanos fuel : Nat} (hfits : nanos / secondNanos < 2 ^ 64)
    (hfuel : (parts nanos units).length ≤ fuel) :
    sum? fuel zero (spaced (parts nanos units)) = some ⟨nanos⟩ := by
  have hlimit : nanos < 2 ^ 64 * secondNanos := (Nat.div_lt_iff_lt_mul (by decide)).mp hfits
  have hsum : zero.nanos + nanos = nanos := Nat.zero_add nanos
  have hread := sum?_parts graded_units hlimit (by rw [hsum]; exact hfits) hfuel
  rw [hsum] at hread
  exact hread

/-- A duration within 64 bits of seconds is read from its text. -/
theorem ofText?_text {duration : Duration} (hfits : duration.seconds < 2 ^ 64) :
    ofText? duration.text = some duration := by
  obtain ⟨nanos⟩ := duration
  change nanos / secondNanos < 2 ^ 64 at hfits
  by_cases hzero : nanos = 0
  · subst hzero
    rfl
  have htext : text ⟨nanos⟩ = " ".intercalate (parts nanos units) := if_neg hzero
  have hread : ∀ fuel, (parts nanos units).length ≤ fuel →
      sum? fuel zero (spaced (parts nanos units)) = some ⟨nanos⟩ :=
    fun _ => sum?_spaced_parts hfits
  cases hparts : parts nanos units with
  | nil =>
      rw [hparts] at hread
      cases hread 0 (Nat.le_refl 0)
      exact absurd rfl hzero
  | cons part rest =>
      obtain ⟨digit, c, more, hpart, hdigit⟩ :=
        exists_digit_of_mem_parts graded_units (hparts ▸ List.mem_cons_self)
      rw [htext, hparts]
      rw [hparts] at hread
      have hlist : (" ".intercalate (part :: rest)).toList =
          digit :: c :: (more ++ spaced rest) := by
        rw [toList_intercalate, hpart]
        rfl
      have hnotZero : (" ".intercalate (part :: rest) == "0") = false := by
        rw [beq_eq_false_iff_ne]
        intro heq
        rw [heq] at hlist
        cases hlist
      have hink : hasInk (" ".intercalate (part :: rest)).toList = true := by
        rw [hlist, hasInk, List.any_cons, not_isBlank_of_isDigit hdigit]
        rfl
      have hfuel : (part :: rest).length ≤ (" ".intercalate (part :: rest)).length := by
        have hrest := length_le_length_spaced rest
        rw [← String.length_toList, hlist, List.length_cons, List.length_cons, List.length_cons,
          List.length_append]
        omega
      rw [ofText?, hnotZero, if_neg Bool.false_ne_true, if_pos hink, ← sum?_blank,
        toList_intercalate]
      exact hread _ hfuel

end Verdict.Duration
