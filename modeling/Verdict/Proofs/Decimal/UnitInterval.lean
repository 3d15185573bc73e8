import Verdict.Json.Value
import Mathlib

/-!
# Floats in the unit interval

A float from zero to one is finite (`isFinite_of_le`), and rounding moves no integer into the unit
interval and none out of it (`Number.toFloat_unit_iff`).  The proof follows the conversion step by
step; every intermediate float is `Wide`.
-/

namespace Verdict
namespace UnitInterval

open Float.Model Float.Model.UnpackedFloat

/-! ## Wide floats -/

/-- A float that is infinite, or has a significand of 53 bits and an exponent of at least
`least`. -/
def Wide (sign : Sign) (least : Int) (x : UnpackedFloat) : Prop :=
  x = .infinity sign ∨
    ∃ significand exponent hpos, x = .finite sign significand exponent hpos ∧
      2 ^ 52 ≤ significand ∧ significand < 2 ^ 53 ∧ least ≤ exponent

theorem Wide.mono {sign : Sign} {least least' : Int} {x : UnpackedFloat}
    (h : Wide sign least x) (hle : least' ≤ least) : Wide sign least' x := by
  rcases h with h | ⟨significand, exponent, hpos, h, hlow, hhigh, hexp⟩
  · exact Or.inl h
  · exact Or.inr ⟨significand, exponent, hpos, h, hlow, hhigh, hle.trans hexp⟩

/-! ## Rounding -/

theorem log2_mul_two_pow {n : Nat} (hn : n ≠ 0) (k : Nat) :
    (n * 2 ^ k).log2 = n.log2 + k := by
  have hlow := Nat.log2_self_le hn
  have hhigh := Nat.lt_log2_self (n := n)
  rw [Nat.log2_eq_iff (by positivity)]
  constructor
  · rw [Nat.pow_add]
    exact Nat.mul_le_mul_right _ hlow
  · rw [show n.log2 + k + 1 = n.log2 + 1 + k by omega, Nat.pow_add]
    exact Nat.mul_lt_mul_of_pos_right hhigh (Nat.two_pow_pos k)

theorem div_two_pow_bounds {n k : Nat} (hn : n ≠ 0) (hk : k ≤ n.log2) :
    2 ^ (n.log2 - k) ≤ n / 2 ^ k ∧ n / 2 ^ k < 2 ^ (n.log2 - k + 1) := by
  constructor
  · rw [Nat.le_div_iff_mul_le (Nat.two_pow_pos k), ← Nat.pow_add,
      show n.log2 - k + k = n.log2 by omega]
    exact Nat.log2_self_le hn
  · rw [Nat.div_lt_iff_lt_mul (Nat.two_pow_pos k), ← Nat.pow_add,
      show n.log2 - k + 1 + k = n.log2 + 1 by omega]
    exact Nat.lt_log2_self

theorem shiftRight_mantissa (extended : ExtendedMantissa) (amount : Nat) :
    (extended >>> amount).mantissa = extended.mantissa / 2 ^ amount := by
  induction amount with
  | zero => simp [HShiftRight.hShiftRight, Nat.repeat]
  | succ amount ih =>
      change (extended >>> amount).mantissa / 2 = _
      rw [ih, Nat.div_div_eq_div_mul, Nat.pow_succ]

theorem roundedMantissa_bounds (extended : ExtendedMantissa) :
    extended.mantissa ≤ extended.roundedMantissa ∧
      extended.roundedMantissa ≤ extended.mantissa + 1 := by
  rw [ExtendedMantissa.roundedMantissa]
  cases extended.accuracy with
  | exact => simp [Accuracy.roundToNearestEven]
  | inexact order =>
      cases order with
      | lt => simp [Accuracy.roundToNearestEven]
      | eq =>
          simp only [Accuracy.roundToNearestEven]
          omega
      | gt => simp [Accuracy.roundToNearestEven]

/-- Far above the subnormal numbers the last place depends on the leading one only. -/
theorem targetExponent_eq {significand : Nat} {exponent : Int} (h : -1000 ≤ exponent) :
    Format.binary64.targetExponent (totalExponent significand exponent) =
      significand.log2 + exponent - 52 := by
  simp only [Format.targetExponent, totalExponent, Format.mantissaBits, Format.minExponent]
  norm_num
  omega

theorem shiftToTargetExponent_bounds {significand : Nat} {exponent : Int}
    (hlow : 2 ^ 52 ≤ significand) (he : -1000 ≤ exponent) :
    let shifted := shiftToTargetExponent Format.binary64 significand exponent .exact
    2 ^ 52 ≤ shifted.1.mantissa ∧ shifted.1.mantissa < 2 ^ 53 ∧
      shifted.2 = exponent + significand.log2 - 52 := by
  have hne : significand ≠ 0 := by omega
  have hlog : 52 ≤ significand.log2 := (Nat.le_log2 hne).mpr hlow
  have hamount : (Format.binary64.targetExponent (totalExponent significand exponent) -
      exponent).toNat = significand.log2 - 52 := by
    rw [targetExponent_eq he]
    omega
  simp only [shiftToTargetExponent, shiftToExponent, hamount, shiftRight_mantissa,
    ExtendedMantissa.ofMantissaAndAccuracy]
  have hbounds := div_two_pow_bounds (k := significand.log2 - 52) hne (by omega)
  rw [show significand.log2 - (significand.log2 - 52) = 52 by omega] at hbounds
  exact ⟨hbounds.1, hbounds.2, by omega⟩

theorem wide_roundWithAccuracy (sign : Sign) {significand : Nat} {exponent : Int}
    (hlow : 2 ^ 52 ≤ significand) (he : -1000 ≤ exponent) :
    Wide sign (exponent + significand.log2 - 52)
      (roundWithAccuracy Format.binary64 sign significand exponent .exact) := by
  let first := shiftToTargetExponent Format.binary64 significand exponent .exact
  let second := shiftToTargetExponent Format.binary64 first.1.roundedMantissa first.2 .exact
  have hfirst : 2 ^ 52 ≤ first.1.mantissa ∧ first.1.mantissa < 2 ^ 53 ∧
      first.2 = exponent + significand.log2 - 52 := shiftToTargetExponent_bounds hlow he
  have hrounded := roundedMantissa_bounds first.1
  have hlog : 52 ≤ significand.log2 := (Nat.le_log2 (by omega)).mpr hlow
  have hlog' : 52 ≤ first.1.roundedMantissa.log2 := (Nat.le_log2 (by omega)).mpr (by omega)
  -- Rounding up can reach `2 ^ 53`; the second shift takes the carry back.
  have hsecond : 2 ^ 52 ≤ second.1.mantissa ∧ second.1.mantissa < 2 ^ 53 ∧
      second.2 = first.2 + first.1.roundedMantissa.log2 - 52 :=
    shiftToTargetExponent_bounds (by omega) (by omega)
  have hne : second.1.mantissa ≠ 0 := by omega
  right
  refine ⟨second.1.mantissa, second.2, Nat.pos_of_ne_zero hne, ?_, hsecond.1, hsecond.2.1,
    by omega⟩
  exact dif_neg hne

theorem wide_round {n : Nat} (hn : n ≠ 0) :
    Wide .positive (n.log2 - 52) (UnpackedFloat.round Format.binary64 .positive n 0) := by
  let shift := (0 - ((n.log2 : Int) + 0 - 52)).toNat
  have hround : UnpackedFloat.round Format.binary64 .positive n 0 =
      roundWithAccuracy Format.binary64 .positive (n * 2 ^ shift) (0 - shift) .exact := by
    simp only [UnpackedFloat.round, decreaseExponent,
      targetExponent_eq (show -1000 ≤ (0 : Int) by decide), Nat.shiftLeft_eq, shift]
  have hlog := log2_mul_two_pow hn shift
  have hlow : 2 ^ 52 ≤ n * 2 ^ shift := (Nat.le_log2 (by positivity)).mp (by omega)
  have hwide := wide_roundWithAccuracy .positive hlow (show -1000 ≤ (0 : Int) - shift by omega)
  rw [hround]
  exact hwide.mono (by omega)

/-! ## Packing into 64 bits and back -/

theorem unpack_packedInfinity (sign : Sign) :
    UnpackedFloat.unpack Format.binary64 (packedInfinity Format.binary64 sign) =
      .infinity sign := by
  cases sign <;> rfl

theorem significand_pos (mantissa : BitVec 52) : 0 < (1#1 ++ mantissa).toNat := by
  rw [BitVec.toNat_append]
  exact Nat.lt_of_lt_of_le (by decide) Nat.left_le_or

theorem unpack_packComponents (sign : Sign) {biased : Nat} (mantissa : BitVec 52)
    (hzero : biased ≠ 0) (hsmall : biased + 1 < 2 ^ 11) :
    UnpackedFloat.unpack Format.binary64
        (packComponents Format.binary64 sign (BitVec.ofNat 11 biased) mantissa) =
      .finite sign (1#1 ++ mantissa).toNat (biased - 1075) (significand_pos mantissa) := by
  have hexp : (BitVec.ofNat 11 biased).toNat = biased := by
    rw [BitVec.toNat_ofNat, Nat.mod_eq_of_lt (by omega)]
  have hne : BitVec.ofNat 11 biased ≠ 0#11 := by
    intro h
    rw [h] at hexp
    exact hzero hexp.symm
  have hne' : BitVec.ofNat 11 biased ≠ -1#11 := by
    intro h
    rw [h] at hexp
    have : (-1#11 : BitVec 11).toNat = 2047 := by decide
    omega
  simp only [UnpackedFloat.unpack, unpackMantissa_packComponents, unpackExponent_packComponents,
    unpackSign_packComponents, Sign.ofBitVec_toBitVec, hne, hne', if_false, hexp]
  rfl

theorem wide_unpack_packComponents (sign : Sign) (biased mantissa : Nat)
    (hzero : biased ≠ 0) (hsmall : biased + 1 < 2 ^ 11) :
    Wide sign (biased - 1075)
      (UnpackedFloat.unpack Format.binary64 (packComponents Format.binary64 sign
        (BitVec.ofNat 11 biased) (BitVec.ofNat 52 mantissa))) := by
  have hlow : 2 ^ 52 ≤ (1#1 ++ BitVec.ofNat 52 mantissa).toNat := by
    rw [BitVec.toNat_append]
    exact Nat.left_le_or
  right
  exact ⟨_, biased - 1075, significand_pos _, unpack_packComponents sign _ hzero hsmall, hlow,
    BitVec.isLt _, le_refl _⟩

theorem pack_finite (sign : Sign) (significand : Nat) (exponent : Int) (hpos : 0 < significand) :
    UnpackedFloat.pack Format.binary64 (.finite sign significand exponent hpos) =
      if 2 ^ 11 ≤ (exponent + 1075).toNat + 1 then packedInfinity Format.binary64 sign
      else packComponents Format.binary64 sign
        (BitVec.ofNat 11 (if significand.log2 + 1 = 53 then (exponent + 1075).toNat else 0))
        (BitVec.ofNat 52 significand) := by
  have hbias : exponent + Format.binary64.exponentBias + (52 : Nat) = exponent + 1075 := by
    change exponent + (1023 : Nat) + (52 : Nat) = _
    omega
  have hbits : Format.binary64.mantissaBits = 53 := rfl
  simp only [UnpackedFloat.pack, hbias, hbits]
  by_cases hlog : significand.log2 + 1 = 53
  · rw [if_pos hlog, if_pos hlog]
  · rw [if_neg hlog, if_neg hlog]

theorem wide_unpack_pack {sign : Sign} {least : Int} {x : UnpackedFloat}
    (h : Wide sign least x) (hleast : -1000 ≤ least) :
    Wide sign least (Float.Model.pack x).unpack := by
  rcases h with rfl | ⟨significand, exponent, hpos, rfl, hlow, hhigh, hexp⟩
  · exact Or.inl (unpack_packedInfinity sign)
  · have hunpack : (Float.Model.pack (.finite sign significand exponent hpos)).unpack =
        UnpackedFloat.unpack Format.binary64
          (UnpackedFloat.pack Format.binary64 (.finite sign significand exponent hpos)) := rfl
    have hlog : significand.log2 + 1 = 53 := by
      rw [(Nat.log2_eq_iff (by omega)).mpr ⟨hlow, hhigh⟩]
    rw [hunpack, pack_finite, if_pos hlog]
    by_cases hoverflow : 2 ^ 11 ≤ (exponent + 1075).toNat + 1
    · rw [if_pos hoverflow]
      exact Or.inl (unpack_packedInfinity sign)
    · rw [if_neg hoverflow]
      have hwide := wide_unpack_packComponents sign (exponent + 1075).toNat significand
        (by omega) (by omega)
      exact hwide.mono (by omega)

/-! ## Converted natural numbers -/

theorem unpack_zero : (0 : Float).toModel.unpack = .zero .positive := rfl

theorem unpack_one :
    (1 : Float).toModel.unpack = .finite .positive (2 ^ 52) (-52) (by decide) := rfl

theorem wide_mul_one {least : Int} {x : Float.Model} (h : Wide .positive least x.unpack)
    (hleast : -900 ≤ least) : Wide .positive least (x * (1 : Float).toModel).unpack := by
  apply wide_unpack_pack _ (by omega)
  rw [unpack_one]
  rcases h with heq | ⟨significand, exponent, hpos, heq, hlow, hhigh, hexp⟩
  · rw [heq]
    exact Or.inl rfl
  · have hlog : (significand * 2 ^ 52).log2 = 104 := by
      rw [log2_mul_two_pow (by omega), (Nat.log2_eq_iff (by omega)).mpr ⟨hlow, hhigh⟩]
    have hwide := wide_roundWithAccuracy .positive
      (show 2 ^ 52 ≤ significand * 2 ^ 52 by omega) (show -1000 ≤ exponent + -52 by omega)
    rw [heq]
    exact hwide.mono (by omega)

/-- Below `2 ^ 53` a natural number is converted through a machine word and a product with one. -/
theorem toModel_ofNat_of_lt {n : Nat} (hn : n ≠ 0) (hsmall : n < 2 ^ 53) :
    (Float.ofNat n).toModel =
      Float.Model.pack (UnpackedFloat.round Format.binary64 .positive n 0) *
        (1 : Float).toModel := by
  have hfloat : Float.ofNat n = n.toUInt64.toFloat * 1 := by
    change Float.ofScientific n false 0 = _
    rw [Float.ofScientific, dif_pos ⟨hsmall, by decide⟩]
    rfl
  have hword : (n.toUInt64.toNat : Int) = n := by
    rw [Nat.toUInt64_eq, UInt64.toNat_ofNat']
    omega
  have hmodel : n.toUInt64.toFloat.toModel =
      Float.Model.pack (UnpackedFloat.round Format.binary64 .positive n 0) := by
    change Float.Model.pack
      (UnpackedFloat.normalize Format.binary64 n.toUInt64.toNat 0 .positive) = _
    rw [hword, UnpackedFloat.normalize, Int.compare_eq_gt.mpr (by omega)]
    rfl
  rw [hfloat, ← hmodel]
  rfl

/-- From `2 ^ 53` on it is converted through the exact product with a power of ten. -/
theorem toModel_ofNat_of_le {n : Nat} (hlarge : ¬ n < 2 ^ 53) :
    (Float.ofNat n).toModel = Float.Model.pack
      (roundWithAccuracy Format.binary64 .positive (n * 2 ^ 53) (-53) .exact) := by
  have hpower : ¬ (0 : Int) < -((2 ^ Format.binary64.exponentBits : Int) + n.log2) := by
    change ¬ (0 : Int) < -(2048 + (n.log2 : Int))
    omega
  change (Float.ofScientific n false 0).toModel = _
  rw [Float.ofScientific, dif_neg (by omega)]
  change Float.Model.pack (UnpackedFloat.ofScientific Format.binary64 n 0) = _
  rw [UnpackedFloat.ofScientific, dif_neg (by omega), if_neg (by decide), if_neg hpower,
    if_pos (by decide)]
  simp only [UnpackedFloat.mul, Nat.shiftLeft_eq]
  congr 1
  rw [Int.toNat_zero, Nat.pow_zero, Nat.mul_one]
  rfl

theorem wide_ofNat {n : Nat} (hn : n ≠ 0) :
    Wide .positive (n.log2 - 52) (Float.ofNat n).toModel.unpack := by
  by_cases hsmall : n < 2 ^ 53
  · rw [toModel_ofNat_of_lt hn hsmall]
    apply wide_mul_one
    · exact wide_unpack_pack (wide_round hn) (by omega)
    · omega
  · have hlog : (n * 2 ^ 53).log2 = n.log2 + 53 := log2_mul_two_pow hn 53
    have hwide := wide_roundWithAccuracy .positive (show 2 ^ 52 ≤ n * 2 ^ 53 by omega)
      (show -1000 ≤ (-53 : Int) by decide)
    rw [toModel_ofNat_of_le hsmall]
    exact wide_unpack_pack (hwide.mono (by omega)) (by omega)

/-! ## Comparisons -/

theorem le_iff_compare {x y : Float} :
    x ≤ y ↔ (x.toModel.unpack.compare y.toModel.unpack).any Ordering.isLE = true := by
  change decide (x.toModel ≤ y.toModel) = true ↔ _
  rw [decide_eq_true_iff]
  rfl

theorem isFinite_of_le {x : Float} (hlow : 0 ≤ x) (hhigh : x ≤ 1) : x.isFinite = true := by
  rw [le_iff_compare, unpack_zero] at hlow
  rw [le_iff_compare, unpack_one] at hhigh
  change x.toModel.unpack.isFinite = true
  cases h : x.toModel.unpack with
  | notANumber =>
      rw [h] at hlow
      cases hlow
  | infinity sign =>
      rw [h] at hlow hhigh
      cases sign with
      | negative => cases hlow
      | positive => cases hhigh
  | zero sign => rfl
  | finite sign significand exponent hpos => rfl

theorem ofNat_le_one_iff {n : Nat} : Float.ofNat n ≤ 1 ↔ n ≤ 1 := by
  constructor
  · intro h
    by_contra hn
    have hlog : 1 ≤ n.log2 := (Nat.le_log2 (by omega)).mpr (by omega)
    rw [le_iff_compare, unpack_one] at h
    rcases wide_ofNat (n := n) (by omega) with heq | ⟨_, exponent, _, heq, -, -, hexp⟩
    · rw [heq] at h
      cases h
    · have hcompare : compare exponent (-52) = .gt := Int.compare_eq_gt.mpr (by omega)
      rw [heq] at h
      simp [UnpackedFloat.compare, hcompare] at h
  · intro h
    obtain rfl | rfl : n = 0 ∨ n = 1 := by omega
    · decide
    · decide

theorem zero_le_ofNat (n : Nat) : (0 : Float) ≤ Float.ofNat n := by
  by_cases hn : n = 0
  · subst hn
    decide
  · rw [le_iff_compare, unpack_zero]
    rcases wide_ofNat hn with heq | ⟨_, _, _, heq, -⟩
    · rw [heq]
      rfl
    · rw [heq]
      rfl

theorem not_zero_le_neg_ofNat {n : Nat} (hn : n ≠ 0) :
    ¬ (0 : Float) ≤ Float.neg (Float.ofNat n) := by
  have hneg : Wide .negative (n.log2 - 52) (Float.ofNat n).toModel.unpack.neg := by
    rcases wide_ofNat hn with heq | ⟨significand, exponent, hpos, heq, hbounds⟩
    · rw [heq]
      exact Or.inl rfl
    · rw [heq]
      exact Or.inr ⟨significand, exponent, hpos, rfl, hbounds⟩
  have hmodel : (Float.neg (Float.ofNat n)).toModel =
      Float.Model.pack (Float.ofNat n).toModel.unpack.neg := rfl
  rw [le_iff_compare, unpack_zero, hmodel]
  rcases wide_unpack_pack hneg (by omega) with heq | ⟨_, _, _, heq, -⟩
  · rw [heq]
    decide
  · rw [heq]
    simp [UnpackedFloat.compare]

end UnitInterval

namespace Number

open UnitInterval

def InUnit : Number → Prop
  | int value => 0 ≤ value ∧ value ≤ 1
  | float value => 0 ≤ value ∧ value ≤ 1

/-- A number lies in the unit interval exactly when its float does. -/
theorem toFloat_unit_iff (number : Number) :
    0 ≤ number.toFloat ∧ number.toFloat ≤ 1 ↔ number.InUnit := by
  cases number with
  | float value => exact Iff.rfl
  | int value =>
      cases value with
      | ofNat n =>
          change 0 ≤ Float.ofNat n ∧ Float.ofNat n ≤ 1 ↔ 0 ≤ (n : Int) ∧ (n : Int) ≤ 1
          rw [ofNat_le_one_iff]
          constructor
          · intro h
            omega
          · intro h
            exact ⟨zero_le_ofNat n, by omega⟩
      | negSucc n =>
          constructor
          · intro h
            exact absurd h.1 (not_zero_le_neg_ofNat (Nat.succ_ne_zero n))
          · intro h
            exact absurd h.1 (by omega)

end Number
end Verdict
