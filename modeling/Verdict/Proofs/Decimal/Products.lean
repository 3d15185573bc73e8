import Verdict.Proofs.Decimal.NearestInteger

/-!
# Products of floats

A product of two floats is rounded, unless it is a float itself (`ExactValue.hasSize_mul`).
-/

namespace Verdict
namespace ExactValue

open Float.Model Float.Model.UnpackedFloat UnitInterval

theorem magnitude_lt {significand : Nat} (h : significand < 2 ^ 53) (exponent : Int) :
    magnitude significand exponent < 2 ^ (53 + exponent) := by
  have hcast : (significand : ℚ) < 2 ^ (53 : Int) := by exact_mod_cast h
  rw [magnitude, zpow_add₀ two_ne_zero, mul_lt_mul_iff_left₀ (zpow_pos two_pos _)]
  exact hcast

theorem exists_hasSize_of_exact {x : Float} (finite : x.isFinite = true) {n : Nat} (hne : n ≠ 0)
    (hx : exact x = n) : ∃ most, HasSize .positive most n x.toModel.unpack := by
  have hpos : (1 : ℚ) ≤ exact x := by
    rw [hx]
    exact_mod_cast Nat.one_le_iff_ne_zero.mpr hne
  rcases unpack_of_isFinite finite with ⟨sign, hzero⟩ | ⟨sign, m, e, hm, hme, hfinite⟩
  · rw [exact, hzero] at hpos
    exact absurd hpos (not_le.mpr one_pos)
  · rw [exact, hfinite] at hpos hx
    cases sign with
    | negative =>
        have hneg : -magnitude m e < 0 := neg_neg_of_pos (magnitude_pos hm e)
        exact absurd (hpos.trans_lt hneg) (not_lt.mpr zero_le_one)
    | positive =>
        have hfull : 2 ^ 52 ≤ m := by
          refine hme.full.resolve_right ?_
          rintro rfl
          have hsmall : magnitude m (-1074) < 1 :=
            (magnitude_lt hme.lt _).trans_le (zpow_le_one_of_nonpos₀ one_le_two (by decide))
          exact absurd hpos (not_le.mpr hsmall)
        exact ⟨e, m, e, hm, hfinite, hfull, hme.lt, hme.least, le_refl e, hx⟩

theorem unpack_mul (x y : Float) :
    (x * y).toModel.unpack =
      (Float.Model.pack
        (UnpackedFloat.mul Format.binary64 x.toModel.unpack y.toModel.unpack)).unpack :=
  rfl

theorem unpack_mul_of_zero {x y : Float} (finite : x.isFinite = true) (hx : exact x = 0)
    {most : Int} {q : ℚ} (hy : HasSize .positive most q y.toModel.unpack) :
    ∃ sign, (x * y).toModel.unpack = .zero sign := by
  obtain ⟨n, e, hn, hy, -⟩ := hy
  rcases unpack_of_isFinite finite with ⟨sign, hzero⟩ | ⟨sign, m, d, hm, -, hfinite⟩
  · refine ⟨sign * .positive, ?_⟩
    rw [unpack_mul, hzero, hy]
    exact unpack_pack_zero _
  · have hpos := magnitude_pos hm d
    rw [exact, hfinite] at hx
    cases sign with
    | positive => exact absurd hx hpos.ne'
    | negative => exact absurd hx (neg_neg_of_pos hpos).ne

section

variable {x y : Float} {most most' : Int} {p q : ℚ}
  (hx : HasSize .positive most p x.toModel.unpack)
  (hy : HasSize .positive most' q y.toModel.unpack)

include hx hy

/-- A product that is a float is not rounded. -/
theorem hasSize_mul {significand : Nat} {exponent : Int} (hlow : 2 ^ 52 ≤ significand)
    (hhigh : significand < 2 ^ 53) (hleast : -1074 ≤ exponent) (hmost : exponent ≤ 970)
    (hsize : magnitude significand exponent = p * q) :
    HasSize .positive (exponent + 1) (p * q) (x * y).toModel.unpack := by
  obtain ⟨m, d, hm, hx, hmlow, -, -, -, rfl⟩ := hx
  obtain ⟨n, e, hn, hy, hnlow, -, -, -, rfl⟩ := hy
  have hlong : 2 ^ 104 ≤ m * n := (Nat.pow_add 2 52 52).le.trans (Nat.mul_le_mul hmlow hnlow)
  have hproduct : (significand : ℚ) * 2 ^ (exponent - (d + e)) = m * n := by
    have hpow : (2 : ℚ) ^ (d + e) ≠ 0 := zpow_ne_zero _ two_ne_zero
    rw [zpow_sub₀ two_ne_zero, mul_div_assoc', div_eq_iff hpow, zpow_add₀ two_ne_zero]
    rw [magnitude, magnitude, magnitude] at hsize
    rw [hsize]
    ring
  -- The exact product has at least 105 bits, so it is the float shifted to the left.
  obtain ⟨scale, hscale⟩ : ∃ scale : Nat, exponent - (d + e) = scale := by
    refine ⟨(exponent - (d + e)).toNat, (Int.toNat_of_nonneg ?_).symm⟩
    by_contra hnegative
    have hle : (significand : ℚ) * 2 ^ (exponent - (d + e)) ≤ significand * 1 := by
      gcongr
      exact zpow_le_one_of_nonpos₀ one_le_two (by omega)
    rw [hproduct, mul_one] at hle
    have hle : m * n ≤ significand := by exact_mod_cast hle
    omega
  have hshifted : m * n = significand * 2 ^ scale := by
    rw [hscale, zpow_natCast] at hproduct
    exact_mod_cast hproduct.symm
  have hexponent : d + e = exponent - scale := by omega
  have hrounded : HasSize .positive (exponent + 1) (magnitude significand exponent)
      (roundWithAccuracy Format.binary64 .positive (m * n) (d + e) .exact) := by
    rw [hshifted, hexponent]
    exact hasSize_roundWithAccuracy_scaled .positive hlow hhigh hleast
  rw [← hsize, unpack_mul, hx, hy]
  exact hrounded.unpack_pack (by omega)

theorem wide_mul {a b : Nat} (ha : 2 ^ a ≤ p) (hb : 2 ^ b ≤ q) :
    Wide .positive (a + b - 52) (x * y).toModel.unpack := by
  have hexponent {m c : Nat} {d : Int} (hm : m < 2 ^ 53) (h : (2 : ℚ) ^ c ≤ magnitude m d) :
      (c : Int) - 52 ≤ d := by
    have hlt : (2 : ℚ) ^ (c : Int) < 2 ^ (53 + d) := by
      rw [zpow_natCast]
      exact h.trans_lt (magnitude_lt hm d)
    have := (zpow_lt_zpow_iff_right₀ one_lt_two).mp hlt
    omega
  obtain ⟨m, d, hm, hx, hmlow, hmhigh, hdleast, -, rfl⟩ := hx
  obtain ⟨n, e, hn, hy, hnlow, hnhigh, heleast, -, rfl⟩ := hy
  have hd := hexponent hmhigh ha
  have he := hexponent hnhigh hb
  have hlong : 2 ^ 104 ≤ m * n := (Nat.pow_add 2 52 52).le.trans (Nat.mul_le_mul hmlow hnlow)
  have hlog : 104 ≤ (m * n).log2 := (Nat.le_log2 (by omega)).mpr hlong
  have hrounded : Wide .positive (d + e + (m * n).log2 - 52)
      (roundWithAccuracy Format.binary64 .positive (m * n) (d + e) .exact) :=
    wide_roundWithAccuracy .positive (by omega) (by omega)
  rw [unpack_mul, hx, hy]
  exact (wide_unpack_pack hrounded (by omega)).mono (by omega)

end

theorem exists_magnitude_eq {n : Nat} (hne : n ≠ 0) (hn : n < 2 ^ 53) (scale : Nat) :
    ∃ (significand : Nat) (exponent : Int), 2 ^ 52 ≤ significand ∧ significand < 2 ^ 53 ∧
      -52 ≤ exponent ∧ exponent ≤ scale ∧
        magnitude significand exponent = (n * 2 ^ scale : Nat) := by
  have hlog := log2_lt_of_lt (by decide) hn
  have hwidth : (n * 2 ^ (52 - n.log2)).log2 = 52 := by
    rw [log2_mul_two_pow hne]
    omega
  obtain ⟨hlow, hhigh⟩ := (Nat.log2_eq_iff (by positivity)).mp hwidth
  refine ⟨n * 2 ^ (52 - n.log2), scale - (52 - n.log2 : Nat), hlow, hhigh, by omega, by omega, ?_⟩
  rw [magnitude, zpow_sub₀ two_ne_zero, zpow_natCast, zpow_natCast]
  push_cast
  field_simp

theorem isFinite_ofNat {n : Nat} (h : n < 2 ^ 64) : (Float.ofNat n).isFinite = true :=
  @isFinite_ofInt (.ofNat n) h

theorem exact_ofNat {n : Nat} (h : n < 2 ^ 64) : exact (Float.ofNat n) = nearestNat n := by
  have hexact : exact (Float.ofNat n) = (nearest (.ofNat n) : ℚ) :=
    @exact_ofInt (.ofNat n) h
  rw [hexact, Int.ofNat_eq_natCast, nearest_natCast, Int.cast_natCast]

theorem ofNat_le_of_wide {n k : Nat} (hn : n < 2 ^ k) (hpos : 0 < k) (hk : k ≤ 64) {y : Float}
    (hy : Wide .positive (k - 52) y.toModel.unpack) : Float.ofNat n ≤ y := by
  have hword : n < 2 ^ 64 := hn.trans_le (Nat.pow_le_pow_right Nat.two_pos hk)
  have hfinite := isFinite_ofNat hword
  rcases hy with hinfinite | ⟨m, e, hm, hy, hlow, -, he⟩
  · rw [le_iff_compare, hinfinite]
    rcases unpack_of_isFinite hfinite with ⟨sign, hx⟩ | ⟨sign, m, e, hm, -, hx⟩
    · rw [hx]
      cases sign <;> rfl
    · rw [hx]
      cases sign <;> rfl
  · have hyfinite : y.isFinite = true := by
      change y.toModel.unpack.isFinite = true
      rw [hy]
      rfl
    have hpow : nearestNat n ≤ 2 ^ k := by
      by_cases hzero : n = 0
      · rw [hzero, nearestNat_of_lt (by decide)]
        exact Nat.zero_le _
      · calc
          nearestNat n ≤ 2 ^ (n.log2 + 1) := nearestNat_le_two_pow hzero
          _ ≤ 2 ^ k := Nat.pow_le_pow_right Nat.two_pos (log2_lt_of_lt hpos hn)
    have hvalue : exact y = magnitude m e := by
      rw [exact, hy]
      rfl
    rw [le_iff hfinite hyfinite, exact_ofNat hword, hvalue]
    calc
      (nearestNat n : ℚ) ≤ 2 ^ (k : Int) := by
        rw [zpow_natCast]
        exact_mod_cast hpow
      _ = 2 ^ (52 : Int) * 2 ^ ((k : Int) - 52) := by
        rw [← zpow_add₀ two_ne_zero, add_sub_cancel]
      _ ≤ m * 2 ^ e := by
        gcongr
        · exact_mod_cast hlow
        · exact one_le_two

end ExactValue
end Verdict
