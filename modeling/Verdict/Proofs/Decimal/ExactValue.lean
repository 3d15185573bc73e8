import Verdict.Proofs.Decimal.Sums

/-!
# The exact values of floats

A finite float stands for a rational number, and finite floats are ordered as these numbers are
(`ExactValue.lt_iff`).  They are compared by sign, exponent and significand, which decides because a
significand is as long as it can be.
-/

namespace Verdict
namespace ExactValue

open Float.Model Float.Model.UnpackedFloat UnitInterval

/-! ## Magnitudes -/

def magnitude (significand : Nat) (exponent : Int) : ℚ :=
  significand * 2 ^ exponent

/-- A significand that could not be longer: it has 53 bits, or the exponent is the least one. -/
structure Normalized (significand : Nat) (exponent : Int) : Prop where
  lt : significand < 2 ^ 53
  least : -1074 ≤ exponent
  full : 2 ^ 52 ≤ significand ∨ exponent = -1074

theorem magnitude_pos {significand : Nat} (hpos : 0 < significand) (exponent : Int) :
    0 < magnitude significand exponent :=
  mul_pos (Nat.cast_pos.mpr hpos) (zpow_pos two_pos _)

theorem magnitude_lt_magnitude_iff {m n : Nat} {exponent : Int} :
    magnitude m exponent < magnitude n exponent ↔ m < n := by
  rw [magnitude, magnitude, mul_lt_mul_iff_left₀ (zpow_pos two_pos _), Nat.cast_lt]

theorem magnitude_lt_of_exponent_lt {m n : Nat} {d e : Int} (hm : Normalized m d)
    (hn : Normalized n e) (h : d < e) : magnitude m d < magnitude n e := by
  have hleast := hm.least
  have hfull : 2 ^ 52 ≤ n := hn.full.resolve_right (by omega)
  have hstep : (2 : ℚ) ^ 53 * 2 ^ d ≤ 2 ^ 52 * 2 ^ e := by
    calc
      (2 : ℚ) ^ 53 * 2 ^ d = 2 ^ 52 * 2 ^ (d + 1) := by
        rw [zpow_add_one₀ two_ne_zero]
        ring
      _ ≤ 2 ^ 52 * 2 ^ e := by
        gcongr
        · norm_num
        · omega
  calc
    magnitude m d < 2 ^ 53 * 2 ^ d := by
      rw [magnitude, mul_lt_mul_iff_left₀ (zpow_pos two_pos _)]
      exact_mod_cast hm.lt
    _ ≤ 2 ^ 52 * 2 ^ e := hstep
    _ ≤ magnitude n e := by
      rw [magnitude, mul_le_mul_iff_left₀ (zpow_pos two_pos _)]
      exact_mod_cast hfull

theorem compare_magnitude {m n : Nat} {d e : Int} (hm : Normalized m d) (hn : Normalized n e) :
    (compare d e).then (compare m n) = compare (magnitude m d) (magnitude n e) := by
  rcases lt_trichotomy d e with hlt | rfl | hgt
  · rw [compare_lt_iff_lt.mpr hlt, compare_lt_iff_lt.mpr (magnitude_lt_of_exponent_lt hm hn hlt)]
    rfl
  · rw [Std.compare_self]
    change compare m n = _
    rcases lt_trichotomy m n with hlt | rfl | hgt
    · rw [compare_lt_iff_lt.mpr hlt, compare_lt_iff_lt.mpr (magnitude_lt_magnitude_iff.mpr hlt)]
    · rw [Std.compare_self, Std.compare_self]
    · rw [compare_gt_iff_gt.mpr hgt, compare_gt_iff_gt.mpr (magnitude_lt_magnitude_iff.mpr hgt)]
  · rw [compare_gt_iff_gt.mpr hgt, compare_gt_iff_gt.mpr (magnitude_lt_of_exponent_lt hn hm hgt)]
    rfl

/-! ## Values -/

/-- The number that a float stands for; infinities and NaN stand for none, and are counted as
zero. -/
def value : UnpackedFloat → ℚ
  | .finite .positive significand exponent _ => magnitude significand exponent
  | .finite .negative significand exponent _ => -magnitude significand exponent
  | _ => 0

def exact (x : Float) : ℚ :=
  value x.toModel.unpack

theorem toNat_one_append (mantissa : BitVec 52) :
    (1#1 ++ mantissa).toNat = 2 ^ 52 + mantissa.toNat := by
  rw [BitVec.toNat_append, ← Nat.shiftLeft_add_eq_or_of_lt mantissa.isLt]
  rfl

theorem normalized_of_unpack {x : Float.Model} {sign : Sign} {significand : Nat} {exponent : Int}
    {hpos : 0 < significand} (h : x.unpack = .finite sign significand exponent hpos) :
    Normalized significand exponent := by
  have hlt := significand_lt h
  change UnpackedFloat.unpack Format.binary64 x.toBits.toBitVec = _ at h
  simp only [UnpackedFloat.unpack] at h
  split at h
  · split at h
    · cases h
    · cases h
  · split at h
    · rename_i hzero
      split at h
      · cases h
      · cases h
        have hleast : ((@unpackExponent Format.binary64 x.toBits.toBitVec).toNat : Int) -
            (Format.binary64.exponentBias + Format.binary64.mantissaBitsWithoutImplicit) + 1 =
              -1074 := by
          rw [hzero]
          rfl
        exact ⟨hlt, hleast.ge, Or.inr hleast⟩
    · rename_i hnonzero
      cases h
      have hpositive : 0 < (@unpackExponent Format.binary64 x.toBits.toBitVec).toNat :=
        Nat.pos_of_ne_zero fun hzero => hnonzero (BitVec.eq_of_toNat_eq hzero)
      have hbias : ((Format.binary64.exponentBias : Nat) : Int) = 1023 := rfl
      rw [hbias]
      refine ⟨hlt, by omega, Or.inl ?_⟩
      exact (toNat_one_append _).ge.trans' (Nat.le_add_right _ _)

theorem unpack_of_isFinite {x : Float} (h : x.isFinite = true) :
    (∃ sign, x.toModel.unpack = .zero sign) ∨
      ∃ sign significand exponent hpos, Normalized significand exponent ∧
        x.toModel.unpack = .finite sign significand exponent hpos := by
  change x.toModel.unpack.isFinite = true at h
  cases hx : x.toModel.unpack with
  | notANumber =>
      rw [hx] at h
      cases h
  | infinity sign =>
      rw [hx] at h
      cases h
  | zero sign => exact Or.inl ⟨sign, rfl⟩
  | finite sign significand exponent hpos =>
      exact Or.inr ⟨sign, significand, exponent, hpos, normalized_of_unpack hx, rfl⟩

/-! ## Comparisons -/

theorem compare_neg_neg (a b : ℚ) : compare (-a) (-b) = (compare a b).swap := by
  rw [← Std.OrientedOrd.eq_swap]
  rcases lt_trichotomy a b with hlt | rfl | hgt
  · rw [compare_gt_iff_gt.mpr (neg_lt_neg hlt), compare_gt_iff_gt.mpr hlt]
  · rw [Std.compare_self, Std.compare_self]
  · rw [compare_lt_iff_lt.mpr (neg_lt_neg hgt), compare_lt_iff_lt.mpr hgt]

/-- Finite floats are compared as the numbers that they stand for. -/
theorem compare_unpack {x y : Float} (hx : x.isFinite = true) (hy : y.isFinite = true) :
    x.toModel.unpack.compare y.toModel.unpack = some (compare (exact x) (exact y)) := by
  rw [exact, exact]
  rcases unpack_of_isFinite hx with ⟨sign, hx⟩ | ⟨sign, m, d, hm, hmd, hx⟩
  · rcases unpack_of_isFinite hy with ⟨other, hy⟩ | ⟨other, n, e, hn, hne, hy⟩
    · rw [hx, hy]
      exact congrArg some (Std.compare_self (a := (0 : ℚ))).symm
    · have hpos := magnitude_pos hn e
      rw [hx, hy]
      cases other with
      | positive => exact congrArg some (compare_lt_iff_lt.mpr hpos).symm
      | negative => exact congrArg some (compare_gt_iff_gt.mpr (neg_neg_of_pos hpos)).symm
  · have hpos := magnitude_pos hm d
    rcases unpack_of_isFinite hy with ⟨other, hy⟩ | ⟨other, n, e, hn, hne, hy⟩
    · rw [hx, hy]
      cases sign with
      | positive => exact congrArg some (compare_gt_iff_gt.mpr hpos).symm
      | negative => exact congrArg some (compare_lt_iff_lt.mpr (neg_neg_of_pos hpos)).symm
    · have hpos' := magnitude_pos hn e
      have hcompare := compare_magnitude hmd hne
      rw [hx, hy]
      cases sign with
      | positive =>
          cases other with
          | positive => exact congrArg some hcompare
          | negative =>
              exact congrArg some (compare_gt_iff_gt.mpr ((neg_neg_of_pos hpos').trans hpos)).symm
      | negative =>
          cases other with
          | positive =>
              exact congrArg some (compare_lt_iff_lt.mpr ((neg_neg_of_pos hpos).trans hpos')).symm
          | negative =>
              change some ((compare d e).then (compare m n)).swap =
                some (compare (-magnitude m d) (-magnitude n e))
              rw [hcompare, compare_neg_neg]

/-- Only the two zeros are different and compare as equal. -/
theorem eq_or_zeros_of_compare_eq {x y : UnpackedFloat} (h : x.compare y = some .eq) :
    x = y ∨ ∃ sign other, x = .zero sign ∧ y = .zero other := by
  have hfinite {m n : Nat} {d e : Int} (h : (compare d e).then (compare m n) = .eq) :
      m = n ∧ d = e := by
    rw [Ordering.then_eq_eq, compare_eq_iff_eq, compare_eq_iff_eq] at h
    exact h.symm
  match x, y, h with
  | .infinity .positive, .infinity .positive, _ => exact Or.inl rfl
  | .infinity .negative, .infinity .negative, _ => exact Or.inl rfl
  | .zero sign, .zero other, _ => exact Or.inr ⟨sign, other, rfl, rfl⟩
  | .finite .positive m d hm, .finite .positive n e hn, h =>
    obtain ⟨rfl, rfl⟩ := hfinite (Option.some_inj.mp h)
    exact Or.inl rfl
  | .finite .negative m d hm, .finite .negative n e hn, h =>
    obtain ⟨rfl, rfl⟩ := hfinite (Ordering.swap_eq_eq.mp (Option.some_inj.mp h))
    exact Or.inl rfl

theorem compare_right_congr {x y : UnpackedFloat} (h : x.compare y = some .eq) (z : UnpackedFloat) :
    z.compare x = z.compare y := by
  rcases eq_or_zeros_of_compare_eq h with rfl | ⟨sign, other, rfl, rfl⟩
  · rfl
  · cases z with
    | notANumber => rfl
    | zero _ => rfl
    | infinity sign => cases sign <;> rfl
    | finite sign => cases sign <;> rfl

theorem lt_right_congr {x y : Float} (h : (x == y) = true) (z : Float) : z < x ↔ z < y := by
  change (x.toModel.unpack.compare y.toModel.unpack == some .eq) = true at h
  rw [lt_iff_compare, lt_iff_compare, compare_right_congr (beq_iff_eq.mp h)]

section

variable {x y : Float} (hx : x.isFinite = true) (hy : y.isFinite = true)

include hx hy

theorem lt_iff : x < y ↔ exact x < exact y := by
  rw [lt_iff_compare, compare_unpack hx hy, Option.some_inj, compare_lt_iff_lt]

theorem le_iff : x ≤ y ↔ exact x ≤ exact y := by
  rw [le_iff_compare, compare_unpack hx hy, Option.any_some, ← compare_le_iff_le]
  exact Ordering.isLE_iff_ne_gt

theorem beq_iff : (x == y) = true ↔ exact x = exact y := by
  change (x.toModel.unpack.compare y.toModel.unpack == some .eq) = true ↔ _
  rw [compare_unpack hx hy, beq_iff_eq, Option.some_inj, compare_eq_iff_eq]

end

end ExactValue
end Verdict
