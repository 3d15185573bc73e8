import Verdict.Decimal.Fixed
import Verdict.Proofs.Decimal.ExactValue

/-!
# Integers as floats

The floats around an integer of more than 53 bits are the multiples of a power of two, so the float
nearest to it is an integer, `ExactValue.nearest`.  Rounding keeps the order of integers
(`ExactValue.nearest_mono`), but it does not keep them apart.
-/

namespace Verdict

namespace Decimal

theorem roundHalfEven_one (n : Nat) : roundHalfEven n 1 = n := by
  rw [roundHalfEven_of_lt (by omega), Nat.div_one]

theorem roundHalfEven_mul_right {scale : Nat} (hpos : 0 < scale) (numerator denominator : Nat) :
    roundHalfEven (numerator * scale) (denominator * scale) =
      roundHalfEven numerator denominator := by
  have htwice : 2 * (numerator % denominator * scale) = 2 * (numerator % denominator) * scale :=
    (Nat.mul_assoc _ _ _).symm
  simp only [roundHalfEven, Nat.mul_div_mul_right _ _ hpos, Nat.mul_mod_mul_right, htwice,
    Nat.mul_lt_mul_right hpos]

theorem roundHalfEven_of_eq {numerator denominator : Nat}
    (h : 2 * (numerator % denominator) = denominator) :
    roundHalfEven numerator denominator =
      numerator / denominator + numerator / denominator % 2 := by
  simp only [roundHalfEven, h, Nat.lt_irrefl, if_false]
  split
  · omega
  · omega

theorem roundHalfEven_bounds (numerator denominator : Nat) :
    numerator / denominator ≤ roundHalfEven numerator denominator ∧
      roundHalfEven numerator denominator ≤ numerator / denominator + 1 := by
  simp only [roundHalfEven]
  split_ifs
  all_goals omega

theorem roundHalfEven_le_roundHalfEven {m n : Nat} (h : m ≤ n) (denominator : Nat) :
    roundHalfEven m denominator ≤ roundHalfEven n denominator := by
  have hdiv : m / denominator ≤ n / denominator := Nat.div_le_div_right h
  have hm := Nat.div_add_mod m denominator
  have hn := Nat.div_add_mod n denominator
  rcases Nat.eq_or_lt_of_le hdiv with heq | hlt
  · rw [heq] at hm
    simp only [roundHalfEven, heq]
    split_ifs
    all_goals omega
  · calc
      roundHalfEven m denominator ≤ m / denominator + 1 := (roundHalfEven_bounds m denominator).2
      _ ≤ n / denominator := hlt
      _ ≤ roundHalfEven n denominator := (roundHalfEven_bounds n denominator).1

end Decimal

namespace ExactValue

open Float.Model Float.Model.UnpackedFloat UnitInterval Decimal

/-! ## Rounding by a shift -/

/-- Of the bits that are shifted out the last one is kept, and whether one of the others is set. -/
theorem shifted_succ (significand amount : Nat) :
    shifted significand (amount + 1) =
      ⟨significand / 2 ^ (amount + 1), significand / 2 ^ amount % 2 != 0,
        significand % 2 ^ amount != 0⟩ := by
  have hstep (amount : Nat) :
      shifted significand (amount + 1) = (shifted significand amount).shiftRightOne := rfl
  induction amount with
  | zero =>
      rw [hstep, Nat.pow_zero, Nat.mod_one, Nat.div_one]
      rfl
  | succ amount ih =>
      have hpos := Nat.two_pow_pos amount
      have hsticky : (significand / 2 ^ amount % 2 != 0 || significand % 2 ^ amount != 0) =
          (significand % 2 ^ (amount + 1) != 0) := by
        rw [Nat.mod_pow_succ]
        rcases Nat.mod_two_eq_zero_or_one (significand / 2 ^ amount) with hbit | hbit
        · simp [hbit]
        · simp [hbit]
      rw [hstep, ih, ExtendedMantissa.shiftRightOne, Nat.div_div_eq_div_mul, ← Nat.pow_succ,
        hsticky]

/-- Shifting bits out and rounding divides by a power of two, a half going to the even
neighbour. -/
theorem roundedMantissa_shifted (significand amount : Nat) :
    (shifted significand amount).roundedMantissa = roundHalfEven significand (2 ^ amount) := by
  cases amount with
  | zero =>
      rw [Nat.pow_zero, roundHalfEven_one]
      rfl
  | succ amount =>
      have hmod : significand % 2 ^ (amount + 1) =
          significand % 2 ^ amount + 2 ^ amount * (significand / 2 ^ amount % 2) :=
        Nat.mod_pow_succ
      have hpow := Nat.pow_succ 2 amount
      have hlt := Nat.mod_lt significand (Nat.two_pow_pos amount)
      rw [shifted_succ, ExtendedMantissa.roundedMantissa]
      rcases Nat.mod_two_eq_zero_or_one (significand / 2 ^ amount) with hbit | hbit
      · rw [hbit, Nat.mul_zero, Nat.add_zero] at hmod
        rw [roundHalfEven_of_lt (by omega), hbit]
        by_cases hrest : significand % 2 ^ amount = 0
        · rw [hrest]
          rfl
        · rw [bne_iff_ne.mpr hrest]
          rfl
      · rw [hbit, Nat.mul_one] at hmod
        rw [hbit]
        by_cases hrest : significand % 2 ^ amount = 0
        · rw [roundHalfEven_of_eq (by omega), hrest]
          rfl
        · rw [roundHalfEven_of_gt (by omega), bne_iff_ne.mpr hrest]
          rfl

/-! ## Floats of a known size -/

/-- A float with a significand of 53 bits, an exponent of at most `most`, and a given size. -/
def HasSize (sign : Sign) (most : Int) (size : ℚ) (x : UnpackedFloat) : Prop :=
  ∃ significand exponent hpos, x = .finite sign significand exponent hpos ∧
    2 ^ 52 ≤ significand ∧ significand < 2 ^ 53 ∧ -1074 ≤ exponent ∧ exponent ≤ most ∧
      magnitude significand exponent = size

theorem unpack_pack_finite (sign : Sign) {significand : Nat} {exponent : Int}
    (hpos : 0 < significand) (hlow : 2 ^ 52 ≤ significand) (hhigh : significand < 2 ^ 53)
    (hleast : -1074 ≤ exponent) (hmost : exponent ≤ 971) :
    (Float.Model.pack (.finite sign significand exponent hpos)).unpack =
      .finite sign significand exponent hpos := by
  have hunpack : (Float.Model.pack (.finite sign significand exponent hpos)).unpack =
      UnpackedFloat.unpack Format.binary64
        (UnpackedFloat.pack Format.binary64 (.finite sign significand exponent hpos)) := rfl
  have hlog : significand.log2 + 1 = 53 := by
    rw [(Nat.log2_eq_iff (by omega)).mpr ⟨hlow, hhigh⟩]
  have hbits : (1#1 ++ BitVec.ofNat 52 significand).toNat = significand := by
    rw [toNat_one_append, BitVec.toNat_ofNat]
    omega
  have hexponent : (((exponent + 1075).toNat : Int) - 1075) = exponent := by omega
  rw [hunpack, pack_finite, if_neg (by omega), if_pos hlog,
    unpack_packComponents sign _ (by omega) (by omega)]
  simp only [hbits, hexponent]

theorem HasSize.mono {sign : Sign} {most most' : Int} {size : ℚ} {x : UnpackedFloat}
    (h : HasSize sign most size x) (hle : most ≤ most') : HasSize sign most' size x := by
  obtain ⟨significand, exponent, hpos, hx, hlow, hhigh, hleast, hexponent, hsize⟩ := h
  exact ⟨significand, exponent, hpos, hx, hlow, hhigh, hleast, hexponent.trans hle, hsize⟩

theorem HasSize.unpack_pack {sign : Sign} {most : Int} {size : ℚ} {x : UnpackedFloat}
    (h : HasSize sign most size x) (hmost : most ≤ 971) :
    HasSize sign most size (Float.Model.pack x).unpack := by
  obtain ⟨significand, exponent, hpos, rfl, hlow, hhigh, hleast, hle, hsize⟩ := h
  exact ⟨significand, exponent, hpos,
    unpack_pack_finite sign hpos hlow hhigh hleast (hle.trans hmost), hlow, hhigh, hleast, hle,
    hsize⟩

theorem HasSize.neg {most : Int} {size : ℚ} {x : UnpackedFloat}
    (h : HasSize .positive most size x) : HasSize .negative most size x.neg := by
  obtain ⟨significand, exponent, hpos, rfl, hbounds⟩ := h
  exact ⟨significand, exponent, hpos, rfl, hbounds⟩

theorem HasSize.value_eq {most : Int} {size : ℚ} {x : UnpackedFloat}
    (h : HasSize .positive most size x) : value x = size := by
  obtain ⟨significand, exponent, hpos, rfl, -, -, -, -, hsize⟩ := h
  exact hsize

theorem HasSize.value_eq_neg {most : Int} {size : ℚ} {x : UnpackedFloat}
    (h : HasSize .negative most size x) : value x = -size := by
  obtain ⟨significand, exponent, hpos, rfl, -, -, -, -, hsize⟩ := h
  exact congrArg Neg.neg hsize

/-! ## Rounding long significands -/

theorem shiftToTargetExponent_of_long {significand : Nat} {exponent : Int}
    (hlow : 2 ^ 52 ≤ significand) (hleast : -1074 ≤ exponent + (significand.log2 - 52 : Nat)) :
    shiftToTargetExponent Format.binary64 significand exponent .exact =
      (shifted significand (significand.log2 - 52),
        exponent + (significand.log2 - 52 : Nat)) := by
  have hlog : 52 ≤ significand.log2 := (Nat.le_log2 (by omega)).mpr hlow
  have hamount : (max (significand.log2 + 1 + exponent - 53) (-1074) - exponent).toNat =
      significand.log2 - 52 := by omega
  rw [shiftToTargetExponent_eq, hamount]

/-- A significand of at least 53 bits is rounded to the nearest one of 53 bits. -/
theorem hasSize_roundWithAccuracy (sign : Sign) {significand : Nat} {exponent raised : Int}
    (hlow : 2 ^ 52 ≤ significand) (hraised : raised = exponent + (significand.log2 - 52 : Nat))
    (hleast : -1074 ≤ raised) :
    HasSize sign (raised + 1)
      (magnitude (roundHalfEven significand (2 ^ (significand.log2 - 52))) raised)
      (roundWithAccuracy Format.binary64 sign significand exponent .exact) := by
  have hne : significand ≠ 0 := by omega
  have hlog : 52 ≤ significand.log2 := (Nat.le_log2 hne).mpr hlow
  have hdiv := div_two_pow_bounds (k := significand.log2 - 52) hne (by omega)
  rw [show significand.log2 - (significand.log2 - 52) = 52 by omega] at hdiv
  have hbounds := roundHalfEven_bounds significand (2 ^ (significand.log2 - 52))
  obtain ⟨rounded, hrounded⟩ :
    ∃ rounded, rounded = roundHalfEven significand (2 ^ (significand.log2 - 52)) := ⟨_, rfl⟩
  rw [← hrounded] at hbounds ⊢
  let second := shiftToTargetExponent Format.binary64 rounded raised .exact
  have hround : roundWithAccuracy Format.binary64 sign significand exponent .exact =
      if h : second.1.mantissa = 0 then .zero sign
      else .finite sign second.1.mantissa second.2 (Nat.pos_of_ne_zero h) := by
    simp only [roundWithAccuracy, shiftToTargetExponent_of_long hlow (hraised ▸ hleast),
      roundedMantissa_shifted, ← hrounded, ← hraised]
    rfl
  have hsecond : second = (shifted rounded (rounded.log2 - 52),
      raised + (rounded.log2 - 52 : Nat)) :=
    shiftToTargetExponent_of_long (by omega) (by omega)
  rw [hround, hsecond]
  by_cases hcarry : rounded = 2 ^ 53
  · have hone : rounded.log2 - 52 = 1 := by
      rw [hcarry, Nat.log2_two_pow]
    have hmantissa : (shifted rounded 1).mantissa = 2 ^ 52 := by
      rw [mantissa_shifted, hcarry]
      rfl
    simp only [hone, hmantissa]
    refine ⟨2 ^ 52, raised + 1, by decide, rfl, le_refl _, by decide, by omega, le_refl _, ?_⟩
    rw [magnitude, magnitude, hcarry, zpow_add_one₀ two_ne_zero]
    push_cast
    ring
  · have hnone : rounded.log2 - 52 = 0 := by
      rw [(Nat.log2_eq_iff (by omega)).mpr ⟨(by omega : 2 ^ 52 ≤ rounded), by omega⟩]
    have hmantissa : (shifted rounded 0).mantissa = rounded := rfl
    have hzero : rounded ≠ 0 := by omega
    simp only [hnone, hmantissa, dif_neg hzero]
    refine ⟨rounded, raised + (0 : Nat), by omega, rfl, by omega, by omega, by omega, by omega, ?_⟩
    rw [Nat.cast_zero, add_zero]

theorem hasSize_roundWithAccuracy_scaled (sign : Sign) {significand scale : Nat} {exponent : Int}
    (hlow : 2 ^ 52 ≤ significand) (hhigh : significand < 2 ^ 53) (hleast : -1074 ≤ exponent) :
    HasSize sign (exponent + 1) (magnitude significand exponent)
      (roundWithAccuracy Format.binary64 sign (significand * 2 ^ scale) (exponent - scale)
        .exact) := by
  have hpos := Nat.two_pow_pos scale
  have hlog : (significand * 2 ^ scale).log2 = 52 + scale := by
    rw [log2_mul_two_pow (by omega), (Nat.log2_eq_iff (by omega)).mpr ⟨hlow, hhigh⟩]
  have hlong : 2 ^ 52 ≤ significand * 2 ^ scale := hlow.trans (Nat.le_mul_of_pos_right _ hpos)
  have hraised :
      exponent = exponent - scale + ((significand * 2 ^ scale).log2 - 52 : Nat) := by omega
  have hsized := hasSize_roundWithAccuracy sign hlong hraised hleast
  have hexact : roundHalfEven (significand * 2 ^ scale) (2 ^ scale) = significand := by
    rw [roundHalfEven_of_lt (by rw [Nat.mul_mod_left]; omega), Nat.mul_div_cancel _ hpos]
  rwa [hlog, Nat.add_sub_cancel_left, hexact] at hsized

theorem HasSize.mul_one {most : Int} {size : ℚ} {x : Float.Model}
    (h : HasSize .positive most size x.unpack) (hmost : most ≤ 970) :
    HasSize .positive (most + 1) size (x * (1 : Float).toModel).unpack := by
  have hmul : (x * (1 : Float).toModel).unpack = (Float.Model.pack
      (UnpackedFloat.mul Format.binary64 x.unpack (1 : Float).toModel.unpack)).unpack := rfl
  obtain ⟨significand, exponent, hpos, hx, hlow, hhigh, hleast, hle, rfl⟩ := h
  have hproduct : HasSize .positive (exponent + 1) (magnitude significand exponent)
      (roundWithAccuracy Format.binary64 .positive (significand * 2 ^ 52) (exponent - (52 : Nat))
        .exact) := hasSize_roundWithAccuracy_scaled .positive hlow hhigh hleast
  rw [hmul, hx, unpack_one]
  exact (hproduct.mono (by omega)).unpack_pack (by omega)

/-! ## Natural numbers -/

def spacing (n : Nat) : Nat :=
  2 ^ (n.log2 - 52)

/-- The float nearest to a natural number, of two the even one. -/
def nearestNat (n : Nat) : Nat :=
  roundHalfEven n (spacing n) * spacing n

theorem spacing_of_lt {n : Nat} (h : n < 2 ^ 53) : spacing n = 1 := by
  have hlog := log2_lt_of_lt (by decide) h
  rw [spacing, show n.log2 - 52 = 0 by omega, Nat.pow_zero]

theorem nearestNat_of_lt {n : Nat} (h : n < 2 ^ 53) : nearestNat n = n := by
  rw [nearestNat, spacing_of_lt h, roundHalfEven_one, Nat.mul_one]

theorem hasSize_round {n : Nat} (hne : n ≠ 0) (hn : n < 2 ^ 53) :
    HasSize .positive 1 n (UnpackedFloat.round Format.binary64 .positive n 0) := by
  have hlog := log2_lt_of_lt (by decide) hn
  let shift := (0 - ((n.log2 : Int) + 0 - 52)).toNat
  have hround : UnpackedFloat.round Format.binary64 .positive n 0 =
      roundWithAccuracy Format.binary64 .positive (n * 2 ^ shift) (0 - shift) .exact := by
    simp only [UnpackedFloat.round, decreaseExponent,
      targetExponent_eq (show -1000 ≤ (0 : Int) by decide), Nat.shiftLeft_eq, shift]
  have hwidth : (n * 2 ^ shift).log2 = 52 := by
    rw [log2_mul_two_pow hne]
    omega
  obtain ⟨hlow, hhigh⟩ := (Nat.log2_eq_iff (by positivity)).mp hwidth
  have hleast : -1074 ≤ (0 : Int) - shift := by omega
  have hsized : HasSize .positive (0 - shift + 1) (magnitude (n * 2 ^ shift) (0 - shift))
      (roundWithAccuracy Format.binary64 .positive (n * 2 ^ shift * 2 ^ 0) (0 - shift - (0 : Nat))
        .exact) := hasSize_roundWithAccuracy_scaled .positive hlow hhigh hleast
  have hsize : magnitude (n * 2 ^ shift) (0 - shift) = n := by
    rw [magnitude, zero_sub, zpow_neg, zpow_natCast, Nat.cast_mul, Nat.cast_pow, Nat.cast_ofNat,
      mul_assoc, mul_inv_cancel₀ (by positivity), mul_one]
  rw [hsize, Nat.pow_zero, Nat.mul_one, Nat.cast_zero, sub_zero] at hsized
  rw [hround]
  exact hsized.mono (by omega)

theorem hasSize_ofNat {n : Nat} (hne : n ≠ 0) (hn : n < 2 ^ 64) :
    HasSize .positive 12 (nearestNat n) (Float.ofNat n).toModel.unpack := by
  by_cases hsmall : n < 2 ^ 53
  · rw [toModel_ofNat_of_lt hne hsmall, nearestNat_of_lt hsmall]
    have hsized := ((hasSize_round hne hsmall).unpack_pack (by decide)).mul_one (by decide)
    exact hsized.mono (by decide)
  · have hlow : 53 ≤ n.log2 := (Nat.le_log2 hne).mpr (by omega)
    have hhigh : n.log2 < 64 := log2_lt_of_lt (by decide) hn
    have hlog : (n * 2 ^ 53).log2 - 52 = n.log2 - 52 + 53 := by
      rw [log2_mul_two_pow hne]
      omega
    have hraised : ((n.log2 - 52 : Nat) : Int) = -53 + ((n * 2 ^ 53).log2 - 52 : Nat) := by omega
    have hsized := hasSize_roundWithAccuracy .positive (by omega) hraised (by omega)
    have hsize : magnitude (roundHalfEven (n * 2 ^ 53) (2 ^ (n.log2 - 52 + 53)))
        (n.log2 - 52 : Nat) = nearestNat n := by
      rw [Nat.pow_add, roundHalfEven_mul_right (by decide), magnitude, nearestNat, spacing,
        zpow_natCast]
      push_cast
      rfl
    rw [hlog, hsize] at hsized
    rw [toModel_ofNat_of_le hsmall]
    exact (hsized.mono (by omega)).unpack_pack (by decide)

/-! ## Order -/

theorem two_pow_log2_le_nearestNat {n : Nat} (hne : n ≠ 0) : 2 ^ n.log2 ≤ nearestNat n := by
  have hdiv := (div_two_pow_bounds (k := n.log2 - 52) hne (by omega)).1
  calc
    2 ^ n.log2 = 2 ^ (n.log2 - (n.log2 - 52)) * spacing n := by
      rw [spacing, ← Nat.pow_add]
      congr 1
      omega
    _ ≤ nearestNat n :=
      Nat.mul_le_mul_right _ (hdiv.trans (roundHalfEven_bounds n (spacing n)).1)

theorem nearestNat_le_two_pow {n : Nat} (hne : n ≠ 0) : nearestNat n ≤ 2 ^ (n.log2 + 1) := by
  have hdiv := (div_two_pow_bounds (k := n.log2 - 52) hne (by omega)).2
  have hbounds := (roundHalfEven_bounds n (spacing n)).2
  calc
    nearestNat n ≤ 2 ^ (n.log2 - (n.log2 - 52) + 1) * spacing n :=
      Nat.mul_le_mul_right _ (hbounds.trans hdiv)
    _ = 2 ^ (n.log2 + 1) := by
      rw [spacing, ← Nat.pow_add]
      congr 1
      omega

theorem nearestNat_le_nearestNat {m n : Nat} (h : m ≤ n) : nearestNat m ≤ nearestNat n := by
  by_cases hzero : m = 0
  · rw [hzero, nearestNat_of_lt (by decide)]
    exact Nat.zero_le _
  have hlog : m.log2 ≤ n.log2 :=
    (Nat.le_log2 (by omega)).mpr ((Nat.log2_self_le hzero).trans h)
  rcases Nat.eq_or_lt_of_le hlog with heq | hlt
  · rw [nearestNat, nearestNat, spacing, spacing, heq]
    exact Nat.mul_le_mul_right _ (roundHalfEven_le_roundHalfEven h _)
  · calc
      nearestNat m ≤ 2 ^ (m.log2 + 1) := nearestNat_le_two_pow hzero
      _ ≤ 2 ^ n.log2 := Nat.pow_le_pow_right Nat.two_pos hlt
      _ ≤ nearestNat n := two_pow_log2_le_nearestNat (by omega)

/-! ## Integers -/

def nearest (value : Int) : Int :=
  value.sign * nearestNat value.natAbs

theorem nearest_neg (value : Int) : nearest (-value) = -nearest value := by
  rw [nearest, nearest, Int.sign_neg, Int.natAbs_neg, Int.neg_mul]

theorem nearest_natCast (n : Nat) : nearest n = nearestNat n := by
  by_cases hzero : n = 0
  · rw [hzero]
    rfl
  · rw [nearest, Int.sign_natCast_of_ne_zero hzero, Int.natAbs_natCast, Int.one_mul]

theorem nearest_of_small {value : Int} (h : value.natAbs < 2 ^ 53) : nearest value = value := by
  rw [nearest, nearestNat_of_lt h, Int.sign_mul_natAbs]

theorem nearest_mono {a b : Int} (h : a ≤ b) : nearest a ≤ nearest b := by
  obtain ⟨m, rfl | rfl⟩ := a.eq_nat_or_neg
  · obtain ⟨n, rfl⟩ := Int.eq_ofNat_of_zero_le (h.trans' (Int.natCast_nonneg m))
    rw [nearest_natCast, nearest_natCast]
    exact_mod_cast nearestNat_le_nearestNat (Int.ofNat_le.mp h)
  · obtain ⟨n, rfl | rfl⟩ := b.eq_nat_or_neg
    · rw [nearest_neg, nearest_natCast, nearest_natCast]
      omega
    · have hle : nearestNat n ≤ nearestNat m := nearestNat_le_nearestNat (by omega)
      rw [nearest_neg, nearest_neg, nearest_natCast, nearest_natCast]
      omega

/-- Rounding makes nothing smaller than it was, but it can make two integers equal. -/
theorem nearest_le_nearest_iff {a b : Int} :
    nearest a ≤ nearest b ↔ a ≤ b ∨ nearest a = nearest b := by
  constructor
  · intro h
    by_cases hle : a ≤ b
    · exact Or.inl hle
    · exact Or.inr (le_antisymm h (nearest_mono (by omega)))
  · rintro (hle | heq)
    · exact nearest_mono hle
    · exact heq.le

theorem natAbs_nearest (value : Int) : (nearest value).natAbs = nearestNat value.natAbs := by
  obtain ⟨n, rfl | rfl⟩ := value.eq_nat_or_neg
  · rw [nearest_natCast, Int.natAbs_natCast, Int.natAbs_natCast]
  · rw [nearest_neg, nearest_natCast, Int.natAbs_neg, Int.natAbs_neg, Int.natAbs_natCast,
      Int.natAbs_natCast]

theorem natAbs_nearest_lt_iff {value : Int} :
    (nearest value).natAbs < 2 ^ 53 ↔ value.natAbs < 2 ^ 53 := by
  refine ⟨?_, fun h => (nearest_of_small h).symm ▸ h⟩
  contrapose!
  intro h
  have hlog : 53 ≤ value.natAbs.log2 := (Nat.le_log2 (by omega)).mpr h
  rw [natAbs_nearest]
  calc
    2 ^ 53 ≤ 2 ^ value.natAbs.log2 := Nat.pow_le_pow_right Nat.two_pos hlog
    _ ≤ nearestNat value.natAbs := two_pow_log2_le_nearestNat (by omega)

/-- An integer of at most 53 bits is rounded to what no other integer is rounded to. -/
theorem nearest_eq_nearest_iff {a b : Int} (h : a.natAbs < 2 ^ 53 ∨ b.natAbs < 2 ^ 53) :
    nearest a = nearest b ↔ a = b := by
  refine ⟨?_, congrArg nearest⟩
  intro heq
  have hboth : a.natAbs < 2 ^ 53 ↔ b.natAbs < 2 ^ 53 := by
    rw [← natAbs_nearest_lt_iff, heq, natAbs_nearest_lt_iff]
  have ha : a.natAbs < 2 ^ 53 := h.elim id hboth.mpr
  rwa [nearest_of_small ha, nearest_of_small (hboth.mp ha)] at heq

/-! ## Integers as floats -/

theorem HasSize.isFinite {sign : Sign} {most : Int} {size : ℚ} {x : Float}
    (h : HasSize sign most size x.toModel.unpack) : x.isFinite = true := by
  obtain ⟨significand, exponent, hpos, hx, -⟩ := h
  change x.toModel.unpack.isFinite = true
  rw [hx]
  rfl

theorem hasSize_neg_ofNat {n : Nat} (hne : n ≠ 0) (hn : n < 2 ^ 64) :
    HasSize .negative 12 (nearestNat n) (Float.ofNat n).neg.toModel.unpack := by
  have hmodel : (Float.ofNat n).neg.toModel =
      Float.Model.pack (Float.ofNat n).toModel.unpack.neg := rfl
  rw [hmodel]
  exact (hasSize_ofNat hne hn).neg.unpack_pack (by decide)

theorem isFinite_ofInt {value : Int} (h : value.natAbs < 2 ^ 64) :
    (Float.ofInt value).isFinite = true := by
  cases value with
  | ofNat n =>
      by_cases hzero : n = 0
      · rw [hzero]
        rfl
      · exact (hasSize_ofNat hzero h).isFinite
  | negSucc n => exact (hasSize_neg_ofNat (Nat.succ_ne_zero n) h).isFinite

/-- An integer of up to 64 bits becomes the nearest float. -/
theorem exact_ofInt {value : Int} (h : value.natAbs < 2 ^ 64) :
    exact (Float.ofInt value) = nearest value := by
  cases value with
  | ofNat n =>
      change ExactValue.value (Float.ofNat n).toModel.unpack = ((nearest n : Int) : ℚ)
      rw [nearest_natCast, Int.cast_natCast]
      by_cases hzero : n = 0
      · rw [hzero, nearestNat_of_lt (by decide)]
        rfl
      · exact (hasSize_ofNat hzero h).value_eq
  | negSucc n =>
      have hvalue : exact (Float.ofNat (n + 1)).neg = -(nearestNat (n + 1) : ℚ) :=
        (hasSize_neg_ofNat (Nat.succ_ne_zero n) h).value_eq_neg
      rw [Int.negSucc_eq, nearest_neg, ← Nat.cast_add_one, nearest_natCast]
      push_cast
      exact hvalue

end ExactValue
end Verdict
