import Verdict.Proofs.Decimal.UnitInterval

/-!
# Sums and shares of floats from the unit interval

Sums of weights do not become infinite, however many there are: to get beyond the exponent 2 a sum
would have to be rounded up, and one more weight is less than half a unit in the last place there
(`Moderate.add_unit`).  Divided by a positive float, such a sum is never NaN
(`Moderate.isNumber_div`).
-/

namespace Verdict
namespace UnitInterval

open Float.Model Float.Model.UnpackedFloat

/-- A float that is zero, or has a significand of at most 53 bits and an exponent of at most
`most`. -/
def Moderate (sign : Sign) (most : Int) (x : UnpackedFloat) : Prop :=
  (∃ other, x = .zero other) ∨
    ∃ significand exponent hpos, x = .finite sign significand exponent hpos ∧
      significand < 2 ^ 53 ∧ exponent ≤ most

theorem Moderate.mono {sign : Sign} {most most' : Int} {x : UnpackedFloat}
    (h : Moderate sign most x) (hle : most ≤ most') : Moderate sign most' x := by
  rcases h with h | ⟨significand, exponent, hpos, h, hsignificand, hexponent⟩
  · exact Or.inl h
  · exact Or.inr ⟨significand, exponent, hpos, h, hsignificand, hexponent.trans hle⟩

/-! ## Rounding -/

theorem log2_lt_of_lt {n bits : Nat} (hbits : 0 < bits) (h : n < 2 ^ bits) : n.log2 < bits := by
  by_cases hn : n = 0
  · rw [hn, Nat.log2_zero]
    exact hbits
  · exact (Nat.log2_lt hn).mpr h

theorem lt_of_log2_lt {n bits : Nat} (h : n.log2 < bits) : n < 2 ^ bits :=
  Nat.lt_log2_self.trans_le (Nat.pow_le_pow_right Nat.two_pos h)

def shifted (significand amount : Nat) : ExtendedMantissa :=
  ExtendedMantissa.ofMantissaAndAccuracy significand .exact >>> amount

theorem mantissa_shifted (significand amount : Nat) :
    (shifted significand amount).mantissa = significand / 2 ^ amount :=
  shiftRight_mantissa _ _

theorem le_of_roundBit {significand amount : Nat}
    (h : (shifted significand amount).roundBit = true) :
    2 ^ amount ≤ 2 * (significand % 2 ^ amount) := by
  cases amount with
  | zero => cases h
  | succ amount =>
      have hbit : significand / 2 ^ amount % 2 ≠ 0 := by
        change ((shifted significand amount).mantissa % 2 != 0) = true at h
        rw [mantissa_shifted] at h
        simpa using h
      rw [Nat.mod_pow_succ, Nat.pow_succ, Nat.mod_two_ne_zero.mp hbit]
      omega

theorem roundedMantissa_of_not_roundBit {extended : ExtendedMantissa}
    (h : ¬ extended.roundBit = true) : extended.roundedMantissa = extended.mantissa := by
  obtain ⟨mantissa, roundBit, stickyBit⟩ := extended
  cases roundBit with
  | true => exact absurd rfl h
  | false => cases stickyBit <;> rfl

theorem roundedMantissa_shifted_le (significand amount : Nat) :
    2 * (2 ^ amount * (shifted significand amount).roundedMantissa) ≤
      2 * significand + 2 ^ amount := by
  have hdiv := Nat.div_add_mod significand (2 ^ amount)
  have hbounds := roundedMantissa_bounds (shifted significand amount)
  rw [mantissa_shifted] at hbounds
  by_cases hbit : (shifted significand amount).roundBit = true
  · have hhalf := le_of_roundBit hbit
    have hmul := Nat.mul_le_mul_left (2 ^ amount) hbounds.2
    rw [Nat.mul_add, Nat.mul_one] at hmul
    omega
  · have hdown : (shifted significand amount).roundedMantissa = significand / 2 ^ amount := by
      rw [← mantissa_shifted]
      exact roundedMantissa_of_not_roundBit hbit
    rw [hdown]
    omega

theorem shiftToTargetExponent_eq (significand : Nat) (exponent : Int) :
    shiftToTargetExponent Format.binary64 significand exponent .exact =
      (shifted significand
          (max (significand.log2 + 1 + exponent - 53) (-1074) - exponent).toNat,
        exponent + (max (significand.log2 + 1 + exponent - 53) (-1074) - exponent).toNat) :=
  rfl

/-- Once rounded, a significand has 53 bits, or a carry beyond them that makes up for one more in
the exponent. -/
theorem shiftToTargetExponent_of_rounded {rounded : Nat} {exponent most : Int}
    (hleast : -1074 ≤ exponent)
    (h : rounded < 2 ^ 53 ∧ exponent ≤ most ∨ rounded = 2 ^ 53 ∧ exponent + 1 ≤ most) :
    let second := shiftToTargetExponent Format.binary64 rounded exponent .exact
    second.1.mantissa < 2 ^ 53 ∧ second.2 ≤ most := by
  simp only [shiftToTargetExponent_eq, mantissa_shifted]
  rcases h with ⟨hsmall, hexponent⟩ | ⟨rfl, hexponent⟩
  · have hlog : rounded.log2 < 53 := log2_lt_of_lt (by decide) hsmall
    have hnone : (max (rounded.log2 + 1 + exponent - 53) (-1074) - exponent).toNat = 0 := by omega
    rw [hnone, Nat.pow_zero, Nat.div_one]
    exact ⟨hsmall, by omega⟩
  · have hone : (max (Nat.log2 (2 ^ 53) + 1 + exponent - 53) (-1074) - exponent).toNat = 1 := by
      rw [Nat.log2_two_pow]
      omega
    rw [hone]
    exact ⟨by decide, by omega⟩

theorem shiftToTargetExponent_of_small {significand shift : Nat} {most : Int}
    (hmost : -1074 ≤ most) (hsmall : 2 * significand + 2 ^ shift < 2 ^ (54 + shift)) :
    let first := shiftToTargetExponent Format.binary64 significand (most - shift) .exact
    (first.1.roundedMantissa < 2 ^ 53 ∧ first.2 ≤ most ∨
        first.1.roundedMantissa = 2 ^ 53 ∧ first.2 + 1 ≤ most) ∧ -1074 ≤ first.2 := by
  have hlog : significand.log2 < 53 + shift := by
    apply log2_lt_of_lt (by omega)
    rw [show 54 + shift = 53 + shift + 1 by omega, Nat.pow_succ] at hsmall
    have hpos := Nat.two_pow_pos shift
    omega
  obtain ⟨amount, hamount⟩ : ∃ amount, amount =
    (max (significand.log2 + 1 + (most - shift) - 53) (-1074) - (most - shift)).toNat := ⟨_, rfl⟩
  simp only [shiftToTargetExponent_eq, ← hamount]
  have hrange : amount ≤ shift := by omega
  have hbits : significand / 2 ^ amount < 2 ^ 53 := by
    rw [Nat.div_lt_iff_lt_mul (Nat.two_pow_pos amount), ← Nat.pow_add]
    exact lt_of_log2_lt (by omega)
  have hbounds := roundedMantissa_bounds (shifted significand amount)
  rw [mantissa_shifted] at hbounds
  refine ⟨?_, by omega⟩
  -- A carry does no harm below `most`, and at `most` half a unit is too little for one.
  by_cases hlast : amount = shift
  · have hhalf := roundedMantissa_shifted_le significand amount
    left
    refine ⟨?_, by omega⟩
    by_contra hcarry
    have hmul := Nat.mul_le_mul_left (2 ^ amount) (Nat.le_of_not_lt hcarry)
    rw [← hlast, Nat.pow_add] at hsmall
    omega
  · omega

/-- What stays below 53 bits when rounded at the exponent `most` is a moderate float, whatever the
exponent is at which it is rounded. -/
theorem moderate_roundWithAccuracy (sign : Sign) {significand shift : Nat} {most : Int}
    (hmost : -1074 ≤ most) (hsmall : 2 * significand + 2 ^ shift < 2 ^ (54 + shift)) :
    Moderate sign most
      (roundWithAccuracy Format.binary64 sign significand (most - shift) .exact) := by
  let first := shiftToTargetExponent Format.binary64 significand (most - shift) .exact
  let second := shiftToTargetExponent Format.binary64 first.1.roundedMantissa first.2 .exact
  obtain ⟨hfirst, hleast⟩ := shiftToTargetExponent_of_small hmost hsmall
  have hsecond : second.1.mantissa < 2 ^ 53 ∧ second.2 ≤ most :=
    shiftToTargetExponent_of_rounded hleast hfirst
  by_cases hzero : second.1.mantissa = 0
  · exact Or.inl ⟨sign, dif_pos hzero⟩
  · right
    exact ⟨second.1.mantissa, second.2, Nat.pos_of_ne_zero hzero, dif_neg hzero, hsecond⟩

theorem moderate_round (sign : Sign) {significand shift : Nat} {most : Int}
    (hmost : -1074 ≤ most) (hsmall : 2 * significand + 2 ^ shift < 2 ^ (54 + shift)) :
    Moderate sign most
      (UnpackedFloat.round Format.binary64 sign significand (most - shift)) := by
  obtain ⟨lowered, hlowered⟩ : ∃ lowered : Nat, lowered = ((most - shift) -
    Format.binary64.targetExponent (totalExponent significand (most - shift))).toNat := ⟨_, rfl⟩
  have hround : UnpackedFloat.round Format.binary64 sign significand (most - shift) =
      roundWithAccuracy Format.binary64 sign (significand * 2 ^ lowered)
        (most - (shift + lowered : Nat)) .exact := by
    simp only [UnpackedFloat.round, decreaseExponent, Nat.shiftLeft_eq, ← hlowered]
    congr 1
    omega
  rw [hround]
  apply moderate_roundWithAccuracy sign hmost
  have hscaled := Nat.mul_lt_mul_of_pos_right hsmall (Nat.two_pow_pos lowered)
  rw [Nat.add_mul, ← Nat.pow_add, ← Nat.pow_add] at hscaled
  rw [← Nat.mul_assoc, ← Nat.add_assoc]
  exact hscaled

/-! ## Packing into 64 bits and back -/

theorem unpack_packComponents_zero (sign : Sign) (mantissa : BitVec 52) :
    UnpackedFloat.unpack Format.binary64
        (packComponents Format.binary64 sign 0#11 mantissa) =
      if h : 0 < mantissa.toNat then .finite sign mantissa.toNat (-1074) h else .zero sign := by
  have hexp : (0#11 : BitVec 11) ≠ -1#11 := by decide
  by_cases hzero : mantissa = 0#52
  · rw [hzero]
    cases sign <;> rfl
  · have hpos : 0 < mantissa.toNat :=
      Nat.pos_of_ne_zero fun h => hzero (BitVec.eq_of_toNat_eq h)
    rw [dif_pos hpos]
    simp only [UnpackedFloat.unpack, unpackMantissa_packComponents, unpackExponent_packComponents,
      unpackSign_packComponents, Sign.ofBitVec_toBitVec, hexp, hzero, if_false]
    rfl

theorem moderate_unpack_packComponents (sign : Sign) {biased : Nat} (mantissa : BitVec 52)
    (hsmall : biased + 1 < 2 ^ 11) :
    Moderate sign (max (biased - 1075) (-1074))
      (UnpackedFloat.unpack Format.binary64 (packComponents Format.binary64 sign
        (BitVec.ofNat 11 biased) mantissa)) := by
  by_cases hzero : biased = 0
  · rw [hzero]
    by_cases hpos : 0 < mantissa.toNat
    · right
      exact ⟨mantissa.toNat, -1074, hpos,
        (unpack_packComponents_zero sign mantissa).trans (dif_pos hpos),
        mantissa.isLt.trans (by decide), by omega⟩
    · left
      exact ⟨sign, (unpack_packComponents_zero sign mantissa).trans (dif_neg hpos)⟩
  · right
    exact ⟨_, _, _, unpack_packComponents sign mantissa hzero hsmall, BitVec.isLt _, by omega⟩

theorem Moderate.ne_notANumber {sign : Sign} {most : Int} {x : UnpackedFloat}
    (h : Moderate sign most x) : x ≠ .notANumber := by
  rcases h with ⟨other, rfl⟩ | ⟨significand, exponent, hpos, rfl, -⟩
  · exact UnpackedFloat.noConfusion
  · exact UnpackedFloat.noConfusion

theorem unpack_pack_zero (sign : Sign) : (Float.Model.pack (.zero sign)).unpack = .zero sign := by
  cases sign <;> rfl

theorem unpack_pack_infinity (sign : Sign) :
    (Float.Model.pack (.infinity sign)).unpack = .infinity sign :=
  unpack_packedInfinity sign

theorem moderate_unpack_pack_finite (sign : Sign) (significand : Nat) (exponent : Int)
    (hpos : 0 < significand) :
    let packed := (Float.Model.pack (.finite sign significand exponent hpos)).unpack
    if exponent ≤ 971 then Moderate sign (max exponent (-1074)) packed
    else packed = .infinity sign := by
  have hunpack : (Float.Model.pack (.finite sign significand exponent hpos)).unpack =
      UnpackedFloat.unpack Format.binary64
        (UnpackedFloat.pack Format.binary64 (.finite sign significand exponent hpos)) := rfl
  simp only [hunpack, pack_finite]
  by_cases hlarge : exponent ≤ 971
  · rw [if_pos hlarge, if_neg (by omega)]
    refine (moderate_unpack_packComponents sign (BitVec.ofNat 52 significand) ?_).mono ?_
    · split
      · omega
      · omega
    · split
      · omega
      · omega
  · rw [if_neg hlarge, if_pos (by omega)]
    exact unpack_packedInfinity sign

theorem Moderate.unpack_pack {sign : Sign} {most : Int} {x : UnpackedFloat}
    (h : Moderate sign most x) (hleast : -1074 ≤ most) (hmost : most ≤ 971) :
    Moderate sign most (Float.Model.pack x).unpack := by
  rcases h with ⟨other, rfl⟩ | ⟨significand, exponent, hpos, rfl, -, hexponent⟩
  · exact Or.inl ⟨other, unpack_pack_zero other⟩
  · have hpacked := moderate_unpack_pack_finite sign significand exponent hpos
    rw [if_pos (hexponent.trans hmost)] at hpacked
    exact hpacked.mono (by omega)

theorem unpack_pack_ne_notANumber {x : UnpackedFloat} (h : x ≠ .notANumber) :
    (Float.Model.pack x).unpack ≠ .notANumber := by
  cases x with
  | notANumber => exact absurd rfl h
  | infinity sign =>
      rw [unpack_pack_infinity]
      exact UnpackedFloat.noConfusion
  | zero sign =>
      rw [unpack_pack_zero]
      exact UnpackedFloat.noConfusion
  | finite sign significand exponent hpos =>
      have hpacked := moderate_unpack_pack_finite sign significand exponent hpos
      dsimp only at hpacked
      split at hpacked
      · exact hpacked.ne_notANumber
      · rw [hpacked]
        exact UnpackedFloat.noConfusion

/-! ## Floats from the unit interval -/

theorem significand_lt {x : Float.Model} {sign : Sign} {significand : Nat} {exponent : Int}
    {hpos : 0 < significand} (h : x.unpack = .finite sign significand exponent hpos) :
    significand < 2 ^ 53 := by
  change UnpackedFloat.unpack Format.binary64 x.toBits.toBitVec = _ at h
  simp only [UnpackedFloat.unpack] at h
  split at h
  · split at h
    · cases h
    · cases h
  · split at h
    · split at h
      · cases h
      · cases h
        exact (BitVec.isLt _).trans (by decide)
    · cases h
      exact BitVec.isLt _

theorem bounds_of_le_one {significand : Nat} {exponent : Int} {hpos : 0 < significand}
    (h : ((UnpackedFloat.finite .positive significand exponent hpos).compare
      (.finite .positive (2 ^ 52) (-52) (by decide))).any Ordering.isLE = true) :
    exponent < -52 ∨ exponent = -52 ∧ significand ≤ 2 ^ 52 := by
  rcases lt_trichotomy exponent (-52) with hlt | rfl | hgt
  · exact Or.inl hlt
  · right
    refine ⟨rfl, ?_⟩
    simpa [UnpackedFloat.compare, Nat.isLE_compare] using h
  · have hcompare : compare exponent (-52) = .gt := Int.compare_eq_gt.mpr hgt
    simp [UnpackedFloat.compare, hcompare] at h

/-- A float from zero to one is zero, or its significand makes up for no more than the exponent
takes away. -/
theorem unpack_of_unit {x : Float} (hlow : 0 ≤ x) (hhigh : x ≤ 1) :
    (∃ sign, x.toModel.unpack = .zero sign) ∨
      ∃ significand exponent hpos,
        x.toModel.unpack = .finite .positive significand exponent hpos ∧
          significand ≤ 2 ^ (-exponent).toNat ∧ exponent ≤ -52 := by
  have hfinite := isFinite_of_le hlow hhigh
  rw [le_iff_compare, unpack_zero] at hlow
  rw [le_iff_compare, unpack_one] at hhigh
  change x.toModel.unpack.isFinite = true at hfinite
  cases h : x.toModel.unpack with
  | notANumber =>
      rw [h] at hfinite
      cases hfinite
  | infinity sign =>
      rw [h] at hfinite
      cases hfinite
  | zero sign => exact Or.inl ⟨sign, rfl⟩
  | finite sign significand exponent hpos =>
      rw [h] at hlow hhigh
      right
      cases sign with
      | negative => cases hlow
      | positive =>
          have hlt := significand_lt h
          have hle := bounds_of_le_one hhigh
          refine ⟨significand, exponent, hpos, rfl, ?_, by omega⟩
          rcases hle with hless | ⟨rfl, hsignificand⟩
          · have hpow : 2 ^ 53 ≤ 2 ^ (-exponent).toNat :=
              Nat.pow_le_pow_right Nat.two_pos (by omega)
            omega
          · exact hsignificand

theorem moderate_of_unit {x : Float} (hlow : 0 ≤ x) (hhigh : x ≤ 1) :
    Moderate .positive 2 x.toModel.unpack := by
  rcases unpack_of_unit hlow hhigh with h | ⟨significand, exponent, hpos, h, -, hexponent⟩
  · exact Or.inl h
  · exact Or.inr ⟨significand, exponent, hpos, h, significand_lt h, by omega⟩

/-! ## Sums -/

theorem unpack_add (x y : Float) :
    (x + y).toModel.unpack = (Float.Model.pack
      (UnpackedFloat.add Format.binary64 x.toModel.unpack y.toModel.unpack)).unpack :=
  rfl

theorem add_finite (m n : Nat) (d e : Int) (hm : 0 < m) (hn : 0 < n) :
    UnpackedFloat.add Format.binary64 (.finite .positive m d hm) (.finite .positive n e hn) =
      UnpackedFloat.round Format.binary64 .positive
        (m * 2 ^ (d - min d e).toNat + n * 2 ^ (e - min d e).toNat) (min d e) := by
  have hnormalize : UnpackedFloat.add Format.binary64 (.finite .positive m d hm)
        (.finite .positive n e hn) =
      UnpackedFloat.normalize Format.binary64
        ((m * 2 ^ (d - min d e).toNat + n * 2 ^ (e - min d e).toNat : Nat) : Int) (min d e)
        .positive := by
    simp only [UnpackedFloat.add, decreaseExponent, Nat.shiftLeft_eq]
    rfl
  have hpos : 0 < m * 2 ^ (d - min d e).toNat + n * 2 ^ (e - min d e).toNat := by
    positivity
  rw [hnormalize, UnpackedFloat.normalize, Int.compare_eq_gt.mpr (by exact_mod_cast hpos)]
  rfl

/-- With the exponent 2 a float of at most one is less than half a unit in the last place, and from
a smaller exponent a sum does not get further. -/
theorem moderate_add_finite {m n : Nat} {d e : Int} (hm : 0 < m) (hn : 0 < n)
    (hmlt : m < 2 ^ 53) (hd : d ≤ 2) (hle : n ≤ 2 ^ (-e).toNat) (he : e ≤ -52) :
    Moderate .positive 2 (UnpackedFloat.add Format.binary64 (.finite .positive m d hm)
      (.finite .positive n e hn)) := by
  obtain ⟨lower, hlower⟩ : ∃ lower, lower = min d e := ⟨_, rfl⟩
  obtain ⟨shift, hshift⟩ : ∃ shift, shift = (2 - lower).toNat := ⟨_, rfl⟩
  have hsum : m * 2 ^ (d - lower).toNat ≤ (2 ^ 53 - 1) * 2 ^ shift :=
    Nat.mul_le_mul (by omega) (Nat.pow_le_pow_right Nat.two_pos (by omega))
  have hadded : n * 2 ^ (e - lower).toNat ≤ 2 ^ (shift - 2) := by
    have hmul := Nat.mul_le_mul_right (2 ^ (e - lower).toNat) hle
    rwa [← Nat.pow_add, show (-e).toNat + (e - lower).toNat = shift - 2 by omega] at hmul
  have hquarter : 2 ^ shift = 2 ^ (shift - 2) * 4 := by
    rw [show 4 = 2 ^ 2 by rfl, ← Nat.pow_add]
    congr 1
    omega
  have hpos := Nat.two_pow_pos (shift - 2)
  rw [add_finite, ← hlower, show lower = 2 - (shift : Int) by omega]
  apply moderate_round .positive (by decide)
  rw [Nat.pow_add, show 2 - (shift : Int) = lower by omega]
  omega

/-- A sum that has an exponent of at most 2 keeps it when a float from zero to one is added. -/
theorem Moderate.add_unit {x y : Float} (hx : Moderate .positive 2 x.toModel.unpack)
    (hlow : 0 ≤ y) (hhigh : y ≤ 1) : Moderate .positive 2 (x + y).toModel.unpack := by
  rw [unpack_add]
  apply Moderate.unpack_pack _ (by decide) (by decide)
  rcases hx with ⟨sign, hx⟩ | ⟨m, d, hm, hx, hmlt, hd⟩
  · rw [hx]
    rcases moderate_of_unit hlow hhigh with ⟨other, hy⟩ | ⟨n, e, hn, hy, hnlt, he⟩
    · rw [hy]
      left
      cases sign <;> cases other <;> exact ⟨_, rfl⟩
    · rw [hy]
      exact Or.inr ⟨n, e, hn, rfl, hnlt, he⟩
  · rw [hx]
    rcases unpack_of_unit hlow hhigh with ⟨other, hy⟩ | ⟨n, e, hn, hy, hle, he⟩
    · rw [hy]
      exact Or.inr ⟨m, d, hm, rfl, hmlt, hd⟩
    · rw [hy]
      exact moderate_add_finite hm hn hmlt hd hle he

/-! ## Counts -/

theorem Moderate.mul_one {x : Float.Model} (h : Moderate .positive 0 x.unpack) :
    Moderate .positive 1 (x * (1 : Float).toModel).unpack := by
  apply Moderate.unpack_pack _ (by decide) (by decide)
  rw [unpack_one]
  rcases h with ⟨sign, h⟩ | ⟨significand, exponent, hpos, h, hsignificand, hexponent⟩
  · rw [h]
    cases sign <;> exact Or.inl ⟨_, rfl⟩
  · obtain ⟨shift, hshift⟩ : ∃ shift, shift = (53 - exponent).toNat := ⟨_, rfl⟩
    have hpow : 2 ^ 53 ≤ 2 ^ shift := Nat.pow_le_pow_right Nat.two_pos (by omega)
    have hround : Moderate .positive 1 (roundWithAccuracy Format.binary64 .positive
        (significand * 2 ^ 52) (1 - shift) .exact) := by
      apply moderate_roundWithAccuracy .positive (by decide)
      rw [Nat.pow_add]
      omega
    rw [h]
    rwa [show 1 - (shift : Int) = exponent + -52 by omega] at hround

theorem moderate_ofNat {n : Nat} (hn : n < 2 ^ 64) :
    Moderate .positive 12 (Float.ofNat n).toModel.unpack := by
  by_cases hzero : n = 0
  · rw [hzero]
    exact Or.inl ⟨_, unpack_zero⟩
  by_cases hsmall : n < 2 ^ 53
  · have hround : Moderate .positive 0
        (UnpackedFloat.round Format.binary64 .positive n (0 - (0 : Nat))) := by
      apply moderate_round .positive (by decide)
      omega
    rw [toModel_ofNat_of_lt hzero hsmall]
    exact (hround.unpack_pack (by decide) (by decide)).mul_one.mono (by decide)
  · have hround : Moderate .positive 12 (roundWithAccuracy Format.binary64 .positive
        (n * 2 ^ 53) (12 - (65 : Nat)) .exact) := by
      apply moderate_roundWithAccuracy .positive (by decide)
      omega
    rw [toModel_ofNat_of_le hsmall]
    exact hround.unpack_pack (by decide) (by decide)

/-! ## Numbers -/

def IsNumber (x : Float) : Prop :=
  x.toModel.unpack ≠ .notANumber

theorem isNumber_of_isFinite {x : Float} (h : x.isFinite = true) : IsNumber x := by
  intro hnan
  change x.toModel.unpack.isFinite = true at h
  rw [hnan] at h
  cases h

theorem lt_iff_compare {x y : Float} :
    x < y ↔ x.toModel.unpack.compare y.toModel.unpack = some .lt := by
  change decide (x.toModel < y.toModel) = true ↔ _
  rw [decide_eq_true_iff]
  exact beq_iff_eq

theorem zero_lt_ofNat {n : Nat} (hn : n ≠ 0) : (0 : Float) < Float.ofNat n := by
  rw [lt_iff_compare, unpack_zero]
  rcases wide_ofNat hn with h | ⟨significand, exponent, hpos, h, -⟩
  · rw [h]
    rfl
  · rw [h]
    rfl

/-! ## Quotients -/

theorem unpack_div (x y : Float) :
    (x / y).toModel.unpack = (Float.Model.pack
      (UnpackedFloat.div Format.binary64 x.toModel.unpack y.toModel.unpack)).unpack :=
  rfl

theorem roundWithAccuracy_ne_notANumber (sign : Sign) (significand : Nat) (exponent : Int)
    (accuracy : Accuracy) :
    roundWithAccuracy Format.binary64 sign significand exponent accuracy ≠ .notANumber := by
  unfold roundWithAccuracy
  dsimp only
  split
  · exact UnpackedFloat.noConfusion
  · exact UnpackedFloat.noConfusion

theorem unpack_of_pos {x : Float} (h : 0 < x) :
    (∃ sign, x.toModel.unpack = .infinity sign) ∨
      ∃ sign significand exponent hpos,
        x.toModel.unpack = .finite sign significand exponent hpos := by
  rw [lt_iff_compare, unpack_zero] at h
  cases hx : x.toModel.unpack with
  | notANumber =>
      rw [hx] at h
      cases h
  | zero sign =>
      rw [hx] at h
      cases h
  | infinity sign => exact Or.inl ⟨sign, rfl⟩
  | finite sign significand exponent hpos => exact Or.inr ⟨sign, significand, exponent, hpos, rfl⟩

/-- A finite float divided by a positive one is a number: the divisor may be infinite, but it is not
zero. -/
theorem Moderate.isNumber_div {most : Int} {x y : Float}
    (hx : Moderate .positive most x.toModel.unpack) (hy : 0 < y) : IsNumber (x / y) := by
  rw [IsNumber, unpack_div]
  apply unpack_pack_ne_notANumber
  rcases hx with ⟨sign, hx⟩ | ⟨significand, exponent, hpos, hx, -⟩
  · rcases unpack_of_pos hy with ⟨other, hy⟩ | ⟨other, significand', exponent', hpos', hy⟩
    · rw [hx, hy]
      exact UnpackedFloat.noConfusion
    · rw [hx, hy]
      exact UnpackedFloat.noConfusion
  · rcases unpack_of_pos hy with ⟨other, hy⟩ | ⟨other, significand', exponent', hpos', hy⟩
    · rw [hx, hy]
      exact UnpackedFloat.noConfusion
    · rw [hx, hy]
      exact roundWithAccuracy_ne_notANumber _ _ _ _

/-! ## Comparisons -/

theorem compare_swap (x y : UnpackedFloat) : y.compare x = (x.compare y).map Ordering.swap := by
  cases x with
  | notANumber => cases y <;> rfl
  | infinity sign =>
      cases y with
      | infinity other => cases sign <;> cases other <;> rfl
      | _ => cases sign <;> rfl
  | zero sign =>
      cases y with
      | infinity other => cases other <;> rfl
      | finite other => cases other <;> rfl
      | _ => rfl
  | finite sign significand exponent hpos =>
      cases y with
      | infinity other => cases sign <;> cases other <;> rfl
      | finite other significand' exponent' =>
          have hexponent : compare exponent' exponent = (compare exponent exponent').swap :=
            Std.OrientedOrd.eq_swap
          have hsignificand : compare significand' significand =
              (compare significand significand').swap := Std.OrientedOrd.eq_swap
          cases sign <;> cases other <;>
            simp [UnpackedFloat.compare, hexponent, hsignificand, Ordering.swap_then]
      | _ => cases sign <;> rfl

theorem compare_isSome {x y : UnpackedFloat} (hx : x ≠ .notANumber) (hy : y ≠ .notANumber) :
    ∃ order, x.compare y = some order := by
  cases x with
  | notANumber => exact absurd rfl hx
  | infinity sign =>
      cases y with
      | notANumber => exact absurd rfl hy
      | infinity other => exact ⟨_, rfl⟩
      | _ => cases sign <;> exact ⟨_, rfl⟩
  | zero sign =>
      cases y with
      | notANumber => exact absurd rfl hy
      | zero other => exact ⟨_, rfl⟩
      | _ other => cases other <;> exact ⟨_, rfl⟩
  | finite sign =>
      cases y with
      | notANumber => exact absurd rfl hy
      | zero other => cases sign <;> exact ⟨_, rfl⟩
      | infinity other => cases sign <;> cases other <;> exact ⟨_, rfl⟩
      | finite other => cases sign <;> cases other <;> exact ⟨_, rfl⟩

theorem le_of_not_lt {x y : Float} (hx : IsNumber x) (hy : IsNumber y) (h : ¬ x < y) :
    y ≤ x := by
  rw [lt_iff_compare] at h
  rw [le_iff_compare, compare_swap]
  obtain ⟨order, horder⟩ := compare_isSome hx hy
  rw [horder] at h ⊢
  cases order with
  | lt => exact absurd rfl h
  | eq => rfl
  | gt => rfl

end UnitInterval
end Verdict
