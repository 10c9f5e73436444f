import EntityDiagram.Json.Number
import Mathlib

/-!
# How far products are rounded up

A floating-point product is the exact product rounded to 53 bits, so it is larger than the exact
one by half a unit of its last place at most. Where the exact product stays far enough below the end
of the range, the rounded one is not infinite. Only numbers of at least one are followed here; they
have all 53 bits.
-/

namespace EntityDiagram.Decimal

open Float.Model Float.Model.UnpackedFloat

/-- The largest factor by which rounding makes a number of 53 bits larger. -/
def roundingFactor : ℚ := 1 + 1 / 2 ^ 53

/-- The end of the range of floating-point numbers. -/
def rangeEnd : ℚ := 2 ^ 53 * 2 ^ (971 : Int)

/-- A number of 53 bits of at least one is not larger than a bound. -/
def IsNormalUpTo (bound : ℚ) (x : UnpackedFloat) : Prop :=
  ∃ sign significand exponent positive, x = .finite sign significand exponent positive ∧
    2 ^ 52 ≤ significand ∧ -52 ≤ exponent ∧ (significand : ℚ) * 2 ^ exponent ≤ bound

/-! ### Dropping bits -/

/-- A whole number with some of its bits dropped. -/
private def dropped (mantissa n : Nat) : ExtendedMantissa :=
  ExtendedMantissa.ofMantissaAndAccuracy mantissa .exact >>> n

private theorem dropped_succ (mantissa n : Nat) :
    dropped mantissa (n + 1) = (dropped mantissa n).shiftRightOne := rfl

private theorem mantissa_dropped (mantissa n : Nat) :
    (dropped mantissa n).mantissa = mantissa / 2 ^ n := by
  induction n with
  | zero => exact (Nat.div_one _).symm
  | succ n ih =>
      rw [dropped_succ, Nat.pow_succ, ← Nat.div_div_eq_div_mul, ← ih]
      rfl

/-- Where the last dropped bit is set, at least half a unit is missing. -/
private theorem half_of_roundBit {mantissa n : Nat}
    (set : (dropped mantissa n).roundBit = true) :
    2 ^ n * (2 * (dropped mantissa n).mantissa + 1) ≤ 2 * mantissa := by
  cases n with
  | zero => cases set
  | succ n =>
      rw [dropped_succ] at set ⊢
      have odd : (dropped mantissa n).mantissa % 2 = 1 := by
        have last : ((dropped mantissa n).mantissa % 2 != 0) = true := set
        simpa using last
      have whole : 2 * ((dropped mantissa n).mantissa / 2) + 1 = (dropped mantissa n).mantissa := by
        omega
      calc 2 ^ (n + 1) * (2 * ((dropped mantissa n).mantissa / 2) + 1)
          = 2 * (mantissa / 2 ^ n * 2 ^ n) := by
            rw [whole, mantissa_dropped, Nat.pow_succ]
            ring
        _ ≤ 2 * mantissa := Nat.mul_le_mul_left 2 (Nat.div_mul_le_self _ _)

/-- Rounding adds one at most, and only for a half. -/
private theorem roundedMantissa_cases (em : ExtendedMantissa) :
    em.roundedMantissa = em.mantissa ∨
      em.roundBit = true ∧ em.roundedMantissa = em.mantissa + 1 := by
  obtain ⟨mantissa, round, sticky⟩ := em
  cases round <;> cases sticky <;>
    simp [ExtendedMantissa.roundedMantissa, ExtendedMantissa.accuracy,
      Accuracy.roundToNearestEven]
  omega

/-- What is left after dropping bits and rounding is too large by half a unit at most. -/
private theorem roundedMantissa_dropped (mantissa n : Nat) :
    mantissa / 2 ^ n ≤ (dropped mantissa n).roundedMantissa ∧
      (dropped mantissa n).roundedMantissa ≤ mantissa / 2 ^ n + 1 ∧
      2 * ((dropped mantissa n).roundedMantissa * 2 ^ n) ≤ 2 * mantissa + 2 ^ n := by
  have below := Nat.div_mul_le_self mantissa (2 ^ n)
  rcases roundedMantissa_cases (dropped mantissa n) with same | ⟨half, more⟩
  · rw [same, mantissa_dropped]
    exact ⟨le_rfl, Nat.le_succ _, Nat.le_add_right_of_le (Nat.mul_le_mul_left 2 below)⟩
  · have missing := half_of_roundBit half
    rw [mantissa_dropped] at missing more
    rw [more]
    refine ⟨Nat.le_succ _, le_rfl, ?_⟩
    calc 2 * ((mantissa / 2 ^ n + 1) * 2 ^ n)
        = 2 ^ n * (2 * (mantissa / 2 ^ n) + 1) + 2 ^ n := by ring
      _ ≤ 2 * mantissa + 2 ^ n := Nat.add_le_add_right missing _

/-! ### Rounding to 53 bits -/

/-- The exponent that a number of at least one is shifted to. -/
private theorem targetExponent_eq {mantissa : Nat} {exponent : Int}
    (large : 0 ≤ mantissa.log2 + exponent) :
    Format.binary64.targetExponent (totalExponent mantissa exponent) =
      mantissa.log2 + exponent - 52 := by
  simp only [Format.targetExponent, totalExponent, Format.mantissaBits, Format.minExponent]
  norm_num
  omega

private theorem shiftToTargetExponent_eq {mantissa : Nat} {exponent : Int} {n : Nat}
    (bits : mantissa.log2 = 52 + n) (large : 0 ≤ mantissa.log2 + exponent) :
    shiftToTargetExponent Format.binary64 mantissa exponent .exact =
      (dropped mantissa n, exponent + n) := by
  have shift : (mantissa.log2 + exponent - 52 - exponent).toNat = n := by omega
  simp only [shiftToTargetExponent, shiftToExponent, targetExponent_eq large, shift]
  rfl

/-- The quotient that is left has 53 bits. -/
private theorem div_bits {mantissa n : Nat} (bits : mantissa.log2 = 52 + n) :
    2 ^ 52 ≤ mantissa / 2 ^ n ∧ mantissa / 2 ^ n < 2 ^ 53 := by
  have positive : mantissa ≠ 0 := by
    rintro rfl
    rw [Nat.log2_zero] at bits
    omega
  have low := Nat.log2_self_le positive
  have high := Nat.lt_log2_self (n := mantissa)
  rw [bits] at low high
  rw [Nat.le_div_iff_mul_le (Nat.two_pow_pos n), Nat.div_lt_iff_lt_mul (Nat.two_pow_pos n),
    ← Nat.pow_add, ← Nat.pow_add]
  exact ⟨low, by rwa [show 53 + n = 52 + n + 1 by omega]⟩

/-- Once rounded, a significand is shifted again only if it has become the next power of two. -/
private theorem roundWithAccuracy_of_bits (sign : Sign) {mantissa : Nat} {exponent : Int}
    {n k : Nat} (bits : mantissa.log2 = 52 + n) (large : 0 ≤ mantissa.log2 + exponent)
    (rounded : (dropped mantissa n).roundedMantissa.log2 = 52 + k) :
    ∃ positive, roundWithAccuracy Format.binary64 sign mantissa exponent .exact =
      .finite sign ((dropped mantissa n).roundedMantissa / 2 ^ k) (exponent + n + k) positive := by
  have first := shiftToTargetExponent_eq bits large
  have second : shiftToTargetExponent Format.binary64 _ (exponent + n) .exact = _ :=
    shiftToTargetExponent_eq rounded (by omega)
  have nonzero : (dropped mantissa n).roundedMantissa / 2 ^ k ≠ 0 := by
    have := (div_bits rounded).1
    omega
  refine ⟨Nat.pos_of_ne_zero nonzero, ?_⟩
  simp only [roundWithAccuracy, first, second, mantissa_dropped, nonzero, dite_false]

/-- A number of 53 bits or more and of at least one is rounded to one of 53 bits, which is larger
by half a unit at most. -/
private theorem roundWithAccuracy_eq (sign : Sign) {mantissa : Nat} {exponent : Int} {n : Nat}
    (bits : mantissa.log2 = 52 + n) (large : 0 ≤ mantissa.log2 + exponent) :
    ∃ significand shifted positive,
      roundWithAccuracy Format.binary64 sign mantissa exponent .exact =
        .finite sign significand shifted positive ∧
      2 ^ 52 ≤ significand ∧ significand < 2 ^ 53 ∧ exponent + n ≤ shifted ∧
      (significand : ℚ) * 2 ^ shifted =
        ((dropped mantissa n).roundedMantissa : ℚ) * 2 ^ (exponent + n) := by
  obtain ⟨low, high, _⟩ := roundedMantissa_dropped mantissa n
  obtain ⟨least, greatest⟩ := div_bits bits
  by_cases carried : (dropped mantissa n).roundedMantissa = 2 ^ 53
  · obtain ⟨positive, same⟩ := roundWithAccuracy_of_bits (k := 1) sign bits large
      (by rw [carried, Nat.log2_two_pow])
    refine ⟨_, _, _, same, ?_, ?_, by omega, ?_⟩
    · rw [carried]
      norm_num
    · rw [carried]
      norm_num
    · rw [carried, zpow_add₀ (by norm_num)]
      norm_num
      ring
  · have log : (dropped mantissa n).roundedMantissa.log2 = 52 + 0 :=
      (Nat.log2_eq_iff (by omega)).mpr ⟨by omega, by omega⟩
    obtain ⟨positive, same⟩ := roundWithAccuracy_of_bits (k := 0) sign bits large log
    refine ⟨_, _, _, same, ?_, ?_, by omega, ?_⟩
    · rw [Nat.pow_zero, Nat.div_one]
      omega
    · rw [Nat.pow_zero, Nat.div_one]
      omega
    · rw [Nat.pow_zero, Nat.div_one, Nat.cast_zero, add_zero]

/-- The rounding factor bounds what rounding adds. -/
private theorem rounded_le {mantissa : Nat} {exponent : Int} {n : Nat}
    (bits : mantissa.log2 = 52 + n) :
    ((dropped mantissa n).roundedMantissa : ℚ) * 2 ^ (exponent + n) ≤
      mantissa * 2 ^ exponent * roundingFactor := by
  obtain ⟨_, _, half⟩ := roundedMantissa_dropped mantissa n
  have unit : 2 ^ 52 * 2 ^ n ≤ mantissa :=
    (Nat.le_div_iff_mul_le (Nat.two_pow_pos n)).mp (div_bits bits).1
  have half : (2 : ℚ) * ((dropped mantissa n).roundedMantissa * 2 ^ n) ≤ 2 * mantissa + 2 ^ n := by
    exact_mod_cast half
  have unit : (2 : ℚ) ^ 52 * 2 ^ n ≤ mantissa := by exact_mod_cast unit
  have shifted :
      ((dropped mantissa n).roundedMantissa : ℚ) * 2 ^ n ≤ mantissa * roundingFactor := by
    rw [roundingFactor]
    linarith
  rw [zpow_add₀ (by norm_num), zpow_natCast, mul_comm ((2 : ℚ) ^ exponent), ← mul_assoc,
    mul_right_comm (mantissa : ℚ)]
  exact mul_le_mul_of_nonneg_right shifted (by positivity)

/-! ### Numbers as they are stored -/

/-- A number of 53 bits is stored without its first bit. -/
private theorem pack_eq {sign : Sign} {significand : Nat} {exponent : Int}
    {positive : 0 < significand} (low : 2 ^ 52 ≤ significand) (high : significand < 2 ^ 53)
    (greatest : exponent ≤ 971) :
    UnpackedFloat.pack Format.binary64 (.finite sign significand exponent positive) =
      packComponents Format.binary64 sign (BitVec.ofNat 11 (exponent + 1075).toNat)
        (BitVec.ofNat 52 significand) := by
  have log : significand.log2 = 52 := (Nat.log2_eq_iff (by omega)).mpr ⟨low, high⟩
  have biased : exponent + ((2 ^ 10 - 1 : Nat) : Int) + (52 : Nat) = exponent + 1075 := by omega
  simp only [UnpackedFloat.pack, Format.exponentBias, Format.mantissaBits, log]
  rw [biased, if_neg (by omega), if_pos trivial]

/-- Its first bit is put back when it is loaded. -/
private theorem toNat_first_append {significand : Nat} (low : 2 ^ 52 ≤ significand)
    (high : significand < 2 ^ 53) : (1#1 ++ BitVec.ofNat 52 significand).toNat = significand := by
  have rest : significand % 2 ^ 52 = significand - 2 ^ 52 := by omega
  rw [BitVec.toNat_append, BitVec.toNat_ofNat, BitVec.toNat_ofNat, rest,
    ← Nat.shiftLeft_add_eq_or_of_lt (by omega)]
  omega

private theorem unpack_pack {sign : Sign} {significand : Nat} {exponent : Int}
    {positive : 0 < significand} (low : 2 ^ 52 ≤ significand) (high : significand < 2 ^ 53)
    (least : -52 ≤ exponent) (greatest : exponent ≤ 971) :
    ∃ sign', (Float.Model.pack (.finite sign significand exponent positive)).unpack =
      .finite sign' significand exponent positive := by
  have field : (BitVec.ofNat 11 (exponent + 1075).toNat).toNat = (exponent + 1075).toNat :=
    Nat.mod_eq_of_lt (by omega)
  have finite : BitVec.ofNat 11 (exponent + 1075).toNat ≠ -1#11 := by
    intro same
    rw [same] at field
    have all : (-1#11).toNat = 2047 := by decide
    omega
  have normal : BitVec.ofNat 11 (exponent + 1075).toNat ≠ 0#11 := by
    intro same
    rw [same] at field
    have none : (0#11).toNat = 0 := by decide
    omega
  refine ⟨Sign.ofBitVec (unpackSign (packComponents Format.binary64 sign
    (BitVec.ofNat 11 (exponent + 1075).toNat) (BitVec.ofNat 52 significand))), ?_⟩
  show UnpackedFloat.unpack Format.binary64 (UnpackedFloat.pack Format.binary64 _) = _
  rw [pack_eq low high greatest, UnpackedFloat.unpack]
  simp only [unpackExponent_packComponents, unpackMantissa_packComponents, finite, normal,
    if_false, toNat_first_append low high, field]
  have bias : Format.binary64.exponentBias = 1023 := by decide
  congr 1
  omega

/-! ### Operations -/

/-- Rounding a number of 53 bits or more and of at least one. -/
private theorem isNormalUpTo_round (sign : Sign) {mantissa : Nat} {exponent : Int} {bound : ℚ}
    (bits : 52 ≤ mantissa.log2) (large : 0 ≤ mantissa.log2 + exponent)
    (value : (mantissa : ℚ) * 2 ^ exponent ≤ bound) (range : bound * roundingFactor < rangeEnd) :
    IsNormalUpTo (bound * roundingFactor)
      (Float.Model.pack
        (roundWithAccuracy Format.binary64 sign mantissa exponent .exact)).unpack := by
  obtain ⟨n, log⟩ := Nat.exists_eq_add_of_le bits
  obtain ⟨significand, shifted, positive, rounded, low, high, least, same⟩ :=
    roundWithAccuracy_eq sign log large
  have bounded : (significand : ℚ) * 2 ^ shifted ≤ bound * roundingFactor := by
    rw [same]
    refine (rounded_le log).trans (mul_le_mul_of_nonneg_right value ?_)
    norm_num [roundingFactor]
  have greatest : shifted ≤ 971 := by
    by_contra beyond
    have unit : (2 : ℚ) ^ (972 : Int) ≤ 2 ^ shifted := zpow_le_zpow_right₀ (by norm_num) (by omega)
    have bits : (2 : ℚ) ^ 52 ≤ significand := by exact_mod_cast low
    have reached : rangeEnd ≤ significand * 2 ^ shifted := by
      calc rangeEnd = 2 ^ 52 * (2 : ℚ) ^ (972 : Int) := by
            rw [rangeEnd, show (972 : Int) = 971 + 1 from rfl, zpow_add_one₀ (by norm_num)]
            ring
        _ ≤ significand * 2 ^ shifted := mul_le_mul bits unit (by positivity) (by positivity)
    linarith
  rw [rounded]
  obtain ⟨sign', stored⟩ : ∃ sign',
      (Float.Model.pack (.finite sign significand shifted positive)).unpack =
        .finite sign' significand shifted positive := unpack_pack low high (by omega) greatest
  exact ⟨sign', significand, shifted, positive, stored, low, by omega, bounded⟩

theorem IsNormalUpTo.mono {x : UnpackedFloat} {a b : ℚ} (h : IsNormalUpTo a x) (le : a ≤ b) :
    IsNormalUpTo b x := by
  obtain ⟨sign, significand, exponent, positive, same, low, least, value⟩ := h
  exact ⟨sign, significand, exponent, positive, same, low, least, value.trans le⟩

/-- The product of two numbers is not larger than the product of their bounds, but for one
rounding. -/
theorem IsNormalUpTo.mul {x y : Float} {a b : ℚ} (left : IsNormalUpTo a x.toModel.unpack)
    (right : IsNormalUpTo b y.toModel.unpack) (range : a * b * roundingFactor < rangeEnd) :
    IsNormalUpTo (a * b * roundingFactor) (x * y).toModel.unpack := by
  obtain ⟨s, m, e, mpos, xeq, mlow, eleast, mvalue⟩ := left
  obtain ⟨t, n, f, npos, yeq, nlow, fleast, nvalue⟩ := right
  have product : (x * y).toModel =
      Float.Model.pack (UnpackedFloat.mul Format.binary64 x.toModel.unpack y.toModel.unpack) := rfl
  rw [product, xeq, yeq, UnpackedFloat.mul]
  have size : 2 ^ 104 ≤ m * n := by
    calc 2 ^ 104 = 2 ^ 52 * 2 ^ 52 := by norm_num
      _ ≤ m * n := Nat.mul_le_mul mlow nlow
  have log : 104 ≤ (m * n).log2 := (Nat.le_log2 (by omega)).mpr size
  refine isNormalUpTo_round _ (by omega) (by omega) ?_ range
  rw [Nat.cast_mul, zpow_add₀ (by norm_num), mul_mul_mul_comm]
  exact mul_le_mul mvalue nvalue (by positivity) (le_trans (by positivity) mvalue)

theorem IsNormalUpTo.isInf {x : Float} {a : ℚ} (h : IsNormalUpTo a x.toModel.unpack) :
    x.isInf = false := by
  obtain ⟨_, _, _, _, same, _⟩ := h
  show x.toModel.unpack.isInf = false
  rw [same]
  rfl

/-! ### Decimals -/

/-- A whole number times a power of ten, rounded once. -/
private theorem isNormalUpTo_slow {m e : Nat} (positive : 0 < m) (small : e ≤ 2048)
    (range : m * 10 ^ e * roundingFactor < rangeEnd) :
    IsNormalUpTo (m * 10 ^ e * roundingFactor)
      (Float.Model.ofScientific m (Int.ofNat e)).unpack := by
  have scaled : UnpackedFloat.ofScientific Format.binary64 m (Int.ofNat e) =
      roundWithAccuracy Format.binary64 .positive ((m <<< 53) * 10 ^ e) (-53) .exact := by
    rw [UnpackedFloat.ofScientific, dif_neg positive.ne', if_neg (by norm_num; omega),
      if_neg (by norm_num; omega), if_pos (show (0 : Int) ≤ Int.ofNat e from Int.natCast_nonneg e)]
    rfl
  have size : 2 ^ 53 ≤ (m <<< 53) * 10 ^ e := by
    rw [Nat.shiftLeft_eq, Nat.mul_right_comm]
    exact Nat.le_mul_of_pos_left _ (by positivity)
  have log : 53 ≤ ((m <<< 53) * 10 ^ e).log2 := (Nat.le_log2 (by omega)).mpr size
  rw [Float.Model.ofScientific, scaled]
  refine isNormalUpTo_round _ (by omega) (by omega) (le_of_eq ?_) range
  rw [Nat.shiftLeft_eq]
  push_cast
  norm_num
  ring

/-- A whole number of 53 bits as a floating-point number. -/
private theorem isNormalUpTo_toFloat {m : Nat} (positive : 0 < m) (small : m < 2 ^ 53) :
    IsNormalUpTo (m * roundingFactor) m.toUInt64.toFloat.toModel.unpack := by
  have log : m.log2 ≤ 52 := by
    have := (Nat.log2_lt positive.ne').mpr small
    omega
  have whole : m.toUInt64.toNat = m := Nat.mod_eq_of_lt (by omega)
  have above : compare (m : Int) 0 = .gt := compare_gt_iff_gt.mpr (by omega)
  have target : Format.binary64.targetExponent (totalExponent m 0) = m.log2 + 0 - 52 :=
    targetExponent_eq (by omega)
  have shift : (0 - ((m.log2 : Int) + 0 - 52)).toNat = 52 - m.log2 := by omega
  have rounded : UnpackedFloat.ofUInt64 Format.binary64 m.toUInt64 =
      roundWithAccuracy Format.binary64 .positive (m <<< (52 - m.log2))
        (0 - (52 - m.log2 : Nat)) .exact := by
    simp only [UnpackedFloat.ofUInt64, UnpackedFloat.ofNat, UnpackedFloat.ofInt,
      UnpackedFloat.normalize, whole, above, UnpackedFloat.round, decreaseExponent,
      Int.toNat_natCast, target, shift]
  have bits : (m <<< (52 - m.log2)).log2 = 52 := by
    rw [Nat.shiftLeft_eq]
    refine (Nat.log2_eq_iff (by positivity)).mpr ?_
    have low := Nat.mul_le_mul_right (2 ^ (52 - m.log2)) (Nat.log2_self_le positive.ne')
    have high := Nat.mul_lt_mul_of_pos_right (Nat.lt_log2_self (n := m))
      (Nat.two_pow_pos (52 - m.log2))
    rw [← Nat.pow_add] at low high
    rw [show m.log2 + (52 - m.log2) = 52 by omega] at low
    rw [show m.log2 + 1 + (52 - m.log2) = 53 by omega] at high
    exact ⟨low, high⟩
  have range : (m : ℚ) * roundingFactor < rangeEnd := by
    have cast : (m : ℚ) < 2 ^ 53 := by exact_mod_cast small
    have unit : (roundingFactor : ℚ) ≤ 2 ^ (971 : Int) :=
      le_trans (b := 2 ^ (1 : Int)) (by norm_num [roundingFactor])
        (zpow_le_zpow_right₀ (by norm_num) (by norm_num))
    exact mul_lt_mul cast unit (by norm_num [roundingFactor]) (by positivity)
  show IsNormalUpTo _ (Float.Model.pack (UnpackedFloat.ofUInt64 Format.binary64 m.toUInt64)).unpack
  rw [rounded]
  refine isNormalUpTo_round _ bits.ge (by omega) (le_of_eq ?_) range
  rw [Nat.shiftLeft_eq]
  push_cast
  rw [zero_sub, zpow_neg, zpow_natCast, mul_assoc, mul_inv_cancel₀ (by positivity), mul_one]

/-- Whether a number of 53 bits of at least one is not larger than a whole number. -/
private def isUpTo (bound : Nat) : UnpackedFloat → Bool
  | .finite _ significand exponent _ =>
    2 ^ 52 ≤ significand && -52 ≤ exponent &&
      significand * 2 ^ (exponent + 52).toNat ≤ bound * 2 ^ 52
  | _ => false

private theorem isNormalUpTo_of_isUpTo {bound : Nat} {x : UnpackedFloat}
    (h : isUpTo bound x = true) : IsNormalUpTo bound x := by
  cases x with
  | finite sign significand exponent positive =>
      simp only [isUpTo, Bool.and_eq_true, decide_eq_true_eq] at h
      obtain ⟨⟨low, least⟩, value⟩ := h
      refine ⟨sign, significand, exponent, positive, rfl, low, least, ?_⟩
      have value : (significand : ℚ) * 2 ^ (exponent + 52).toNat ≤ bound * 2 ^ 52 := by
        exact_mod_cast value
      rw [← zpow_natCast, Int.toNat_of_nonneg (by omega), zpow_add₀ (by norm_num),
        ← mul_assoc] at value
      exact le_of_mul_le_mul_right value (by positivity)
  | _ => cases h

/-- The small powers of ten are stored exactly. -/
private theorem isNormalUpTo_table (e : Fin 23) :
    IsNormalUpTo ((10 ^ (e : Nat) : Nat) : ℚ)
      (getElem Float.exactlyRepresentablePowersOfTen (e : Nat) e.isLt).toModel.unpack := by
  refine isNormalUpTo_of_isUpTo ?_
  revert e
  decide +kernel

/-- A decimal with a whole significand is larger than it should be by two roundings at most. -/
theorem isNormalUpTo_ofScientific {m e : Nat} (positive : 0 < m) (small : e ≤ 2048)
    (range : m * 10 ^ e * roundingFactor ^ 2 < rangeEnd) :
    IsNormalUpTo (m * 10 ^ e * roundingFactor ^ 2)
      (Float.ofScientific m false e).toModel.unpack := by
  rw [Float.ofScientific]
  split
  · next fast =>
    have same : m * roundingFactor * ((10 ^ e : Nat) : ℚ) * roundingFactor =
        m * 10 ^ e * roundingFactor ^ 2 := by
      push_cast
      ring
    rw [← same] at range ⊢
    exact (isNormalUpTo_toFloat positive fast.1).mul (isNormalUpTo_table ⟨e, by omega⟩) range
  · next slow =>
    have larger : m * 10 ^ e * roundingFactor ≤ m * 10 ^ e * roundingFactor ^ 2 :=
      mul_le_mul_of_nonneg_left (by norm_num [roundingFactor]) (by positivity)
    exact (isNormalUpTo_slow positive small (larger.trans_lt range)).mono larger

private theorem rangeEnd_lt : rangeEnd < 10 ^ (Json.maxPower + 1) := by
  have whole : ((2 ^ 53 * 2 ^ 971 : Nat) : ℚ) < ((10 ^ (Json.maxPower + 1) : Nat) : ℚ) :=
    Nat.cast_lt.mpr (by decide +kernel)
  rw [Nat.cast_mul, Nat.cast_pow, Nat.cast_pow, Nat.cast_pow] at whole
  show (2 : ℚ) ^ 53 * (2 : ℚ) ^ ((971 : Nat) : Int) < _
  rw [zpow_natCast]
  exact whole

/-- A whole number times a power of ten is in range, and the power is one that is computed with, if
there is room for five roundings. -/
theorem isSome_scale? {significand exponent : Nat} (positive : 0 < significand)
    (range : significand * 10 ^ exponent * roundingFactor ^ 5 < rangeEnd) :
    exponent ≤ Json.maxPower ∧ (Json.scale? significand exponent).isSome := by
  have factor : 1 ≤ roundingFactor := by norm_num [roundingFactor]
  have one : (1 : ℚ) ≤ significand := by exact_mod_cast positive
  have ten : (10 : ℚ) ^ 0 ≤ 10 ^ exponent := pow_le_pow_right₀ (by norm_num) (Nat.zero_le _)
  have small : exponent ≤ Json.maxPower := by
    refine not_lt.mp fun large => ?_
    have power : (10 : ℚ) ^ (Json.maxPower + 1) ≤ 1 * 10 ^ exponent * 1 := by
      rw [one_mul, mul_one]
      exact pow_le_pow_right₀ (by norm_num) large
    have least :
        1 * (10 : ℚ) ^ exponent * 1 ≤ significand * 10 ^ exponent * roundingFactor ^ 5 := by
      gcongr
      exact one_le_pow₀ factor
    exact absurd (power.trans least) (not_le.mpr (range.trans rangeEnd_lt))
  have rest : roundingFactor ^ 2 ≤ roundingFactor ^ 5 := pow_le_pow_right₀ factor (by norm_num)
  have whole : significand * 10 ^ 0 * roundingFactor ^ 2 < rangeEnd :=
    lt_of_le_of_lt (by gcongr) range
  have power : (1 : Nat) * 10 ^ exponent * roundingFactor ^ 2 < rangeEnd :=
    lt_of_le_of_lt (by gcongr; exact_mod_cast one) range
  have same : (significand * 10 ^ 0 * roundingFactor ^ 2) *
      ((1 : Nat) * 10 ^ exponent * roundingFactor ^ 2) * roundingFactor =
        significand * 10 ^ exponent * roundingFactor ^ 5 := by
    push_cast
    ring
  have left := isNormalUpTo_ofScientific positive (by decide : 0 ≤ 2048) whole
  have right := isNormalUpTo_ofScientific Nat.one_pos
    (small.trans (by decide : Json.maxPower ≤ 2048)) power
  have product := left.mul right (by rwa [same])
  have finite : (Float.ofNat significand * Json.powerOfTen exponent).isInf = false := product.isInf
  have sign : ¬ (exponent : Int) < 0 := by omega
  exact ⟨small, by simp [Json.scale?, sign, small, finite]⟩

end EntityDiagram.Decimal
