import Verdict.Operator.Numeric
import Verdict.Proofs.Decimal.NearestInteger
import Verdict.Proofs.Operator.Ordering

/-!
# Ranges and remainders of integers

A range is tested on floats, so of integers it only sees what rounding leaves of them
(`Operator.between_iff_nearest`).  A remainder of integers is exact: `Operator.Division` carries the
division out once more in arithmetic of 128 bits, and integers of 64 bits never leave its range
(`Operator.Division.run?_integers`).
-/

namespace Verdict
namespace Operator

open ExactValue

/-! ## Operands -/

/-- The two operands that an array lists, or that an object holds under two names. -/
inductive Operands (first second : String) (a b : Json) : Json → Prop where
  | array : Operands first second a b (.array [a, b])
  | object {fields : List (String × Json)} (hfirst : Fields.get? fields first = some a)
      (hsecond : Fields.get? fields second = some b) : Operands first second a b (.object fields)

theorem Operands.operandPair_eq {first second : String} {a b operand : Json}
    (h : Operands first second a b operand) : operandPair operand first second = some (a, b) := by
  cases h with
  | array => rfl
  | object hfirst hsecond =>
      rw [operandPair, hfirst, hsecond]
      rfl

/-! ## Ranges -/

theorem natAbs_lt_of_representable {value : Int} (h : (Number.int value).Representable) :
    value.natAbs < 2 ^ 64 := by
  obtain ⟨hlow, hhigh⟩ := h
  rw [Number.minInt] at hlow
  rw [Number.maxInt] at hhigh
  omega

theorem ofInt_le_ofInt_iff {a b : Int} (ha : (Number.int a).Representable)
    (hb : (Number.int b).Representable) :
    Float.ofInt a ≤ Float.ofInt b ↔ nearest a ≤ nearest b := by
  have ha := natAbs_lt_of_representable ha
  have hb := natAbs_lt_of_representable hb
  rw [le_iff (isFinite_ofInt ha) (isFinite_ofInt hb), exact_ofInt ha, exact_ofInt hb, Int.cast_le]

section Range

variable {a least greatest : Int} (ha : (Number.int a).Representable)
  (hleast : (Number.int least).Representable) (hgreatest : (Number.int greatest).Representable)
  {operand : Json} (operands : Operands "min" "max" (.ofInt least) (.ofInt greatest) operand)
  (now : Instant)

include ha hleast hgreatest operands

/-- A range is tested on what rounding leaves of value and bounds. -/
theorem between_iff_nearest :
    between (some (.ofInt a)) operand now = true ↔
      nearest least ≤ nearest a ∧ nearest a ≤ nearest greatest := by
  have hpair : floatPair operand "min" "max" =
      some (Float.ofInt least, Float.ofInt greatest) := by
    rw [floatPair, operands.operandPair_eq]
    rfl
  have hbetween : between (some (.ofInt a)) operand now =
      (decide (Float.ofInt least ≤ Float.ofInt a) &&
        decide (Float.ofInt a ≤ Float.ofInt greatest)) := by
    rw [between, hpair]
    rfl
  rw [hbetween, Bool.and_eq_true, decide_eq_true_iff, decide_eq_true_iff,
    ofInt_le_ofInt_iff hleast ha, ofInt_le_ofInt_iff ha hgreatest]

/-- A value in range passes.  One out of range passes only if it is rounded to the same float as the
bound it misses, while the operators of order always tell the two apart. -/
theorem between_of_integers :
    (between (some (.ofInt a)) operand now = true ↔
        (least ≤ a ∨ nearest a = nearest least) ∧ (a ≤ greatest ∨ nearest a = nearest greatest)) ∧
      ((gte (some (.ofInt a)) (.ofInt least) now && lte (some (.ofInt a)) (.ofInt greatest) now) =
        true ↔ least ≤ a ∧ a ≤ greatest) ∧
      (a.natAbs < 2 ^ 53 ∨ least.natAbs < 2 ^ 53 ∧ greatest.natAbs < 2 ^ 53 →
        (between (some (.ofInt a)) operand now = true ↔ least ≤ a ∧ a ≤ greatest)) := by
  have hbetween : between (some (.ofInt a)) operand now = true ↔
      (least ≤ a ∨ nearest a = nearest least) ∧ (a ≤ greatest ∨ nearest a = nearest greatest) := by
    rw [between_iff_nearest ha hleast hgreatest operands now, nearest_le_nearest_iff,
      nearest_le_nearest_iff, eq_comm (a := nearest least)]
  refine ⟨hbetween, ?_, ?_⟩
  · rw [Bool.and_eq_true]
    exact and_congr (gte_iff_of_placed (.int a) (.int least) now)
      (lte_iff_of_placed (.int a) (.int greatest) now)
  · intro small
    have hlow : nearest a = nearest least ↔ a = least :=
      nearest_eq_nearest_iff (small.imp_right And.left)
    have hhigh : nearest a = nearest greatest ↔ a = greatest :=
      nearest_eq_nearest_iff (small.imp_right And.right)
    rw [hbetween, hlow, hhigh, or_iff_left_of_imp Eq.ge, or_iff_left_of_imp Eq.le]

end Range

theorem between_of_integers_belowPrecision :
    (Number.int 40).Representable ∧ (Number.int (-9223372036854775808)).Representable ∧
      (Number.int 18446744073709551615).Representable ∧
      Operands "min" "max" (.ofInt (-9223372036854775808)) (.ofInt 18446744073709551615)
        (.array [.ofInt (-9223372036854775808), .ofInt 18446744073709551615]) ∧
      between (some (.ofInt 40))
        (.array [.ofInt (-9223372036854775808), .ofInt 18446744073709551615]) ⟨0, 0⟩ = true := by
  have ha : (Number.int 40).Representable := ⟨by decide, by decide⟩
  have hleast : (Number.int (-9223372036854775808)).Representable := ⟨by decide, by decide⟩
  have hgreatest : (Number.int 18446744073709551615).Representable := ⟨by decide, by decide⟩
  obtain ⟨-, -, hexact⟩ := between_of_integers ha hleast hgreatest .array ⟨0, 0⟩
  exact ⟨ha, hleast, hgreatest, .array, (hexact (Or.inl (by decide))).mpr (by decide)⟩

/-- The first integer that is no float passes as its lower neighbour, which the operator of order
knows to be smaller. -/
theorem between_admits_neighbour :
    between (some (.ofInt 9007199254740993)) (.array [.ofInt 0, .ofInt 9007199254740992]) ⟨0, 0⟩ =
        true ∧
      ¬ (0 ≤ (9007199254740993 : Int) ∧ (9007199254740993 : Int) ≤ 9007199254740992) ∧
      lte (some (.ofInt 9007199254740993)) (.ofInt 9007199254740992) ⟨0, 0⟩ = false := by
  refine ⟨?_, by decide, by decide⟩
  apply (between_iff_nearest ⟨by decide, by decide⟩ ⟨by decide, by decide⟩
    ⟨by decide, by decide⟩ .array ⟨0, 0⟩).mpr
  decide

/-! ## Remainders -/

theorem floor_div_of_pos {a d : Int} (h : 0 < d) : ⌊(a : ℚ) / d⌋ = a / d := by
  obtain ⟨n, rfl⟩ := Int.eq_ofNat_of_zero_le h.le
  exact Rat.floor_intCast_div_natCast a n

theorem flooredRemainder_of_pos {a d : Int} (h : 0 < d) : flooredRemainder a d = a % d := by
  have hnonneg : 0 ≤ a.tmod d + d := by
    have hlt := Int.lt_tmod_of_pos a h
    omega
  rw [flooredRemainder, Int.tmod_eq_emod_of_nonneg hnonneg, Int.add_emod_right, Int.tmod_def,
    Int.sub_mul_emod_self_left]

theorem flooredRemainder_neg_neg (a d : Int) :
    flooredRemainder (-a) (-d) = -flooredRemainder a d := by
  rw [flooredRemainder, flooredRemainder, Int.tmod_neg, Int.neg_tmod, Int.tmod_neg, ← Int.neg_add,
    Int.neg_tmod]

theorem flooredRemainder_eq {a d : Int} (h : d ≠ 0) :
    flooredRemainder a d = a - d * ⌊(a : ℚ) / d⌋ := by
  have hpositive {a d : Int} (h : 0 < d) : flooredRemainder a d = a - d * ⌊(a : ℚ) / d⌋ := by
    rw [flooredRemainder_of_pos h, floor_div_of_pos h, Int.emod_def]
  rcases lt_or_gt_of_ne h with hneg | hpos
  · have hswap := hpositive (a := -a) (d := -d) (by omega)
    rw [flooredRemainder_neg_neg, Int.cast_neg, Int.cast_neg, neg_div_neg_eq, Int.neg_mul] at hswap
    omega
  · exact hpositive hpos

theorem flooredRemainder_bounds {a d : Int} (h : d ≠ 0) :
    0 ≤ flooredRemainder a d ∧ flooredRemainder a d < d ∨
      d < flooredRemainder a d ∧ flooredRemainder a d ≤ 0 := by
  have hpositive {a d : Int} (h : 0 < d) : 0 ≤ flooredRemainder a d ∧ flooredRemainder a d < d := by
    rw [flooredRemainder_of_pos h]
    exact ⟨Int.emod_nonneg a h.ne', Int.emod_lt_of_pos a h⟩
  rcases lt_or_gt_of_ne h with hneg | hpos
  · have hswap := hpositive (a := -a) (d := -d) (by omega)
    rw [flooredRemainder_neg_neg] at hswap
    omega
  · exact Or.inl (hpositive hpos)

/-! ## Arithmetic of 128 bits -/

namespace Word

def Fits (value : Int) : Prop :=
  -2 ^ 127 ≤ value ∧ value < 2 ^ 127

instance (value : Int) : Decidable (Fits value) :=
  inferInstanceAs (Decidable (_ ∧ _))

def add? (a b : Int) : Option Int :=
  if Fits (a + b) then some (a + b) else none

def rem? (a b : Int) : Option Int :=
  if b ≠ 0 ∧ Fits (a.tdiv b) then some (a.tmod b) else none

/-- The remainder with the sign of the divisor, if nothing gets out of range on the way to it. -/
def flooredRemainder? (value divisor : Int) : Option Int := do
  let first ← rem? value divisor
  let shifted ← add? first divisor
  rem? shifted divisor

theorem fits_of_natAbs_lt {value : Int} (h : value.natAbs < 2 ^ 66) : Fits value := by
  rw [Fits]
  omega

theorem add?_eq {a b : Int} (ha : a.natAbs < 2 ^ 64) (hb : b.natAbs < 2 ^ 64) :
    add? a b = some (a + b) :=
  if_pos (fits_of_natAbs_lt (by omega))

theorem rem?_eq {a b : Int} (ha : a.natAbs < 2 ^ 66) (hb : b ≠ 0) : rem? a b = some (a.tmod b) :=
  if_pos ⟨hb, fits_of_natAbs_lt ((Int.natAbs_tdiv_le_natAbs a b).trans_lt ha)⟩

/-- Integers of 64 bits leave room enough. -/
theorem flooredRemainder?_eq {a d : Int} (ha : (Number.int a).Representable)
    (hd : (Number.int d).Representable) (h : d ≠ 0) :
    flooredRemainder? a d = some (flooredRemainder a d) := by
  have ha := natAbs_lt_of_representable ha
  have hd := natAbs_lt_of_representable hd
  have hfirst : (a.tmod d).natAbs < 2 ^ 64 := by
    rw [Int.natAbs_tmod]
    exact (Nat.mod_le _ _).trans_lt ha
  rw [flooredRemainder?, rem?_eq (by omega) h, Option.bind_eq_bind, Option.bind_some,
    add?_eq hfirst hd, Option.bind_some, rem?_eq (by omega) h, flooredRemainder]

end Word

/-! ## Divisions -/

/-- How a value is divided: not at all, as integers or as floats. -/
inductive Division where
  | refused
  | integers (value divisor remainder : Int)
  | floats (value divisor remainder : Float)

namespace Division

def of (actual : Option Json) (operand : Json) : Division :=
  match defined actual with
  | some (.number value) =>
    match (Json.number value).int?, intPair operand "divisor" "remainder" with
    | some value, some (divisor, remainder) => integers value divisor remainder
    | _, _ =>
      match floatPair operand "divisor" "remainder" with
      | some (divisor, remainder) => floats value.toFloat divisor remainder
      | none => refused
  | _ => refused

def holds : Division → Bool
  | refused => false
  | integers value divisor remainder =>
    divisor != 0 && flooredRemainder value divisor == remainder
  | floats value divisor remainder => leavesRemainder value divisor remainder

/-- The division in arithmetic of 128 bits, if it can be carried out. -/
def run? : Division → Option Bool
  | refused => some false
  | integers value divisor remainder =>
    if divisor = 0 then some false
    else (Word.flooredRemainder? value divisor).map (· == remainder)
  | floats value divisor remainder => some (leavesRemainder value divisor remainder)

theorem modulo_eq_holds (actual : Option Json) (operand : Json) (now : Instant) :
    modulo actual operand now = (of actual operand).holds := by
  unfold modulo of
  cases defined actual with
  | none => rfl
  | some value =>
      cases value with
      | number value =>
          cases value with
          | int value =>
              cases intPair operand "divisor" "remainder" with
              | none => cases floatPair operand "divisor" "remainder" <;> rfl
              | some pair => rfl
          | float value => cases floatPair operand "divisor" "remainder" <;> rfl
      | _ => rfl

theorem run?_integers {a d : Int} (ha : (Number.int a).Representable)
    (hd : (Number.int d).Representable) (r : Int) :
    (integers a d r).run? = some (integers a d r).holds := by
  by_cases hzero : d = 0
  · rw [run?, if_pos hzero, holds, bne_eq_false_iff_eq.mpr hzero, Bool.false_and]
  · rw [run?, if_neg hzero, Word.flooredRemainder?_eq ha hd hzero, holds, bne_iff_ne.mpr hzero,
      Bool.true_and, Option.map_some]

end Division

theorem Operands.division_eq {a d r : Int} {operand : Json}
    (operands : Operands "divisor" "remainder" (.ofInt d) (.ofInt r) operand) :
    Division.of (some (.ofInt a)) operand = .integers a d r := by
  have hpair : intPair operand "divisor" "remainder" = some (d, r) := by
    rw [intPair, operands.operandPair_eq]
    rfl
  rw [Division.of, hpair]
  rfl

/-- Integers are divided as such and never as floats, and nothing gets out of range on the way.  The
remainder is the one of the quotient that is rounded down, which has the sign of the divisor. -/
theorem modulo_of_integers {a d r : Int} (ha : (Number.int a).Representable)
    (hd : (Number.int d).Representable) (hr : (Number.int r).Representable) {operand : Json}
    (operands : Operands "divisor" "remainder" (.ofInt d) (.ofInt r) operand) (now : Instant) :
    Division.of (some (.ofInt a)) operand = .integers a d r ∧
      (Division.integers a d r).run? = some (modulo (some (.ofInt a)) operand now) ∧
      (modulo (some (.ofInt a)) operand now = true ↔ d ≠ 0 ∧ r = a - d * ⌊(a : ℚ) / d⌋) ∧
      (modulo (some (.ofInt a)) operand now = true → 0 ≤ r ∧ r < d ∨ d < r ∧ r ≤ 0) := by
  have hdivision := operands.division_eq (a := a)
  have hholds : modulo (some (.ofInt a)) operand now = (Division.integers a d r).holds := by
    rw [Division.modulo_eq_holds, hdivision]
  have hiff : modulo (some (.ofInt a)) operand now = true ↔ d ≠ 0 ∧ flooredRemainder a d = r := by
    rw [hholds, Division.holds, Bool.and_eq_true, bne_iff_ne, beq_iff_eq]
  refine ⟨hdivision, ?_, ?_, ?_⟩
  · rw [hholds, Division.run?_integers ha hd]
  · rw [hiff]
    refine and_congr_right ?_
    intro hne
    rw [flooredRemainder_eq hne, eq_comm]
  · intro h
    obtain ⟨hne, rfl⟩ := hiff.mp h
    exact flooredRemainder_bounds hne

theorem modulo_of_integers_leastInteger :
    (Number.int Number.minInt).Representable ∧ (Number.int (-3)).Representable ∧
      (Number.int (-2)).Representable ∧
      Operands "divisor" "remainder" (.ofInt (-3)) (.ofInt (-2))
        (.object [("divisor", .ofInt (-3)), ("remainder", .ofInt (-2)), ("unit", .null)]) ∧
      modulo (some (.ofInt Number.minInt))
        (.object [("divisor", .ofInt (-3)), ("remainder", .ofInt (-2)), ("unit", .null)]) ⟨0, 0⟩ =
          true ∧
      (-2 : Int) = Number.minInt - -3 * ⌊((Number.minInt : Int) : ℚ) / ((-3 : Int) : ℚ)⌋ := by
  have ha : (Number.int Number.minInt).Representable := ⟨by decide, by decide⟩
  have hd : (Number.int (-3)).Representable := ⟨by decide, by decide⟩
  have hr : (Number.int (-2)).Representable := ⟨by decide, by decide⟩
  have operands : Operands "divisor" "remainder" (.ofInt (-3)) (.ofInt (-2))
      (.object [("divisor", .ofInt (-3)), ("remainder", .ofInt (-2)), ("unit", .null)]) :=
    .object rfl rfl
  have hmodulo : modulo (some (.ofInt Number.minInt))
      (.object [("divisor", .ofInt (-3)), ("remainder", .ofInt (-2)), ("unit", .null)]) ⟨0, 0⟩ =
        true := by decide
  obtain ⟨-, -, hiff, -⟩ := modulo_of_integers ha hd hr operands ⟨0, 0⟩
  exact ⟨ha, hd, hr, operands, hmodulo, (hiff.mp hmodulo).2⟩

end Operator
end Verdict
