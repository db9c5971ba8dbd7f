import Mathlib.Tactic.Ring
import Mathlib.Tactic.Positivity
import ProductCatalog.Proofs.Decimal.Defined

/-! How far rounding can move a number. One that is not zero does not become zero if its exponent is
in reach, and the exponent grows by one at most beyond what the bits of the mantissa require. So the
powers of ten that decimals are scaled by are finite, and none of them is zero. -/

namespace ProductCatalog.Decimal

open Float.Model (Format UnpackedFloat totalExponent)
open Float.Model.UnpackedFloat

theorem mantissa_shiftRight (extended : ExtendedMantissa) (count : Nat) :
    (extended >>> count).mantissa = extended.mantissa / 2 ^ count := by
  induction count with
  | zero => simp [HShiftRight.hShiftRight, Nat.repeat]
  | succ count ih =>
      change (extended >>> count).mantissa / 2 = _
      rw [ih, Nat.div_div_eq_div_mul, Nat.pow_succ]

theorem mantissa_ofMantissaAndAccuracy (mantissa : Nat) (accuracy : Accuracy) :
    (ExtendedMantissa.ofMantissaAndAccuracy mantissa accuracy).mantissa = mantissa := by
  cases accuracy with
  | exact => rfl
  | inexact order => cases order <;> rfl

theorem roundToNearestEven_bounds (mantissa : Nat) (accuracy : Accuracy) :
    mantissa ≤ accuracy.roundToNearestEven mantissa ∧
      accuracy.roundToNearestEven mantissa ≤ mantissa + 1 := by
  cases accuracy with
  | exact => simp [Accuracy.roundToNearestEven]
  | inexact order =>
      cases order <;> simp only [Accuracy.roundToNearestEven] <;> omega

theorem targetExponent_eq (total : Int) :
    Format.binary64.targetExponent total = max (total - 53) (-1074) := rfl

/-- The shift leaves at most 53 bits of a mantissa, and one of them that is set. -/
theorem shiftToTargetExponent_bounds {mantissa : Nat} (positive : 0 < mantissa) {exponent : Int}
    (low : -1074 ≤ exponent) (accuracy : Accuracy) :
    let shifted := shiftToTargetExponent Format.binary64 mantissa exponent accuracy
    0 < shifted.1.mantissa ∧ shifted.1.mantissa < 2 ^ 53 ∧
      shifted.2 = max exponent (mantissa.log2 + exponent - 52) := by
  intro shifted
  let target := Format.binary64.targetExponent (totalExponent mantissa exponent)
  have count : (target - exponent).toNat = mantissa.log2 - 52 := by
    simp only [target, targetExponent_eq, totalExponent]
    omega
  have mantissaLeft : shifted.1.mantissa = mantissa / 2 ^ (mantissa.log2 - 52) := by
    change (ExtendedMantissa.ofMantissaAndAccuracy mantissa accuracy >>>
      (target - exponent).toNat).mantissa = _
    rw [mantissa_shiftRight, mantissa_ofMantissaAndAccuracy, count]
  have exponentLeft : shifted.2 = exponent + (mantissa.log2 - 52 : Nat) := by
    change exponent + ((target - exponent).toNat : Int) = _
    rw [count]
  have below := Nat.log2_self_le (Nat.ne_of_gt positive)
  have above := Nat.lt_log2_self (n := mantissa)
  rw [mantissaLeft]
  refine ⟨?_, ?_, by omega⟩
  · apply Nat.div_pos _ (Nat.two_pow_pos _)
    calc 2 ^ (mantissa.log2 - 52)
        _ ≤ 2 ^ mantissa.log2 := Nat.pow_le_pow_right (by omega) (by omega)
        _ ≤ mantissa := below
  · rw [Nat.div_lt_iff_lt_mul (Nat.two_pow_pos _), ← Nat.pow_add]
    calc mantissa
        _ < 2 ^ (mantissa.log2 + 1) := above
        _ ≤ 2 ^ (53 + (mantissa.log2 - 52)) := Nat.pow_le_pow_right (by omega) (by omega)

theorem roundWithAccuracy_finite {mantissa : Nat} (positive : 0 < mantissa) {exponent : Int}
    (low : -1074 ≤ exponent) (sign : UnpackedFloat.Sign) (accuracy : Accuracy) :
    ∃ rounded final nonzero,
      roundWithAccuracy Format.binary64 sign mantissa exponent accuracy =
        .finite sign rounded final nonzero ∧
      rounded < 2 ^ 53 ∧ -1074 ≤ final ∧
      final ≤ max exponent (mantissa.log2 + exponent - 52) + 1 := by
  let first := shiftToTargetExponent Format.binary64 mantissa exponent accuracy
  obtain ⟨firstPositive, firstBound, firstExponent⟩ :
      0 < first.1.mantissa ∧ first.1.mantissa < 2 ^ 53 ∧
        first.2 = max exponent (mantissa.log2 + exponent - 52) :=
    shiftToTargetExponent_bounds positive low accuracy
  have rounded : first.1.mantissa ≤ first.1.roundedMantissa ∧
      first.1.roundedMantissa ≤ first.1.mantissa + 1 :=
    roundToNearestEven_bounds first.1.mantissa first.1.accuracy
  -- rounding up can give the mantissa one bit more, which the second shift drops
  have roundedPositive : 0 < first.1.roundedMantissa := by omega
  have roundedBits : first.1.roundedMantissa.log2 ≤ 53 := by
    have small : first.1.roundedMantissa < 2 ^ 54 := by omega
    have bits := (Nat.log2_lt (Nat.ne_of_gt roundedPositive)).mpr small
    omega
  have inReach : -1074 ≤ first.2 := by omega
  let last := shiftToTargetExponent Format.binary64 first.1.roundedMantissa first.2 .exact
  obtain ⟨lastPositive, lastBound, lastExponent⟩ :
      0 < last.1.mantissa ∧ last.1.mantissa < 2 ^ 53 ∧
        last.2 = max first.2 (first.1.roundedMantissa.log2 + first.2 - 52) :=
    shiftToTargetExponent_bounds roundedPositive inReach .exact
  refine ⟨last.1.mantissa, last.2, lastPositive, ?_, lastBound, by omega, by omega⟩
  exact dif_neg (Nat.ne_of_gt lastPositive)

theorem pack_finite {rounded : Nat} {final : Int} (nonzero : 0 < rounded) (bits : rounded < 2 ^ 53)
    (low : -1074 ≤ final) (high : final ≤ 970) (sign : UnpackedFloat.Sign) :
    let x := Float.ofModel (.pack (.finite sign rounded final nonzero))
    0 < magnitude x ∧ isFinite x = true := by
  intro x
  have exponentValue :
      (unpackExponent (pack Format.binary64 (.finite sign rounded final nonzero))).toNat =
        magnitude x / exponentBit := toNat_unpackExponent _
  have mantissaValue :
      (unpackMantissa (pack Format.binary64 (.finite sign rounded final nonzero))).toNat =
        magnitude x % exponentBit := toNat_unpackMantissa _
  have fits : ¬2048 ≤ (final + 1023 + 52).toNat + 1 := by omega
  rw [pack_of_finite] at exponentValue mantissaValue
  simp only [if_neg fits] at exponentValue mantissaValue
  unfold exponentBit at exponentValue mantissaValue
  rw [isFinite, decide_eq_true_iff]
  unfold infiniteMagnitude
  by_cases normal : rounded.log2 + 1 = 53
  · rw [if_pos normal, unpackExponent_packComponents, BitVec.toNat_ofNat] at exponentValue
    omega
  · have log : rounded.log2 < 53 := (Nat.log2_lt (Nat.ne_of_gt nonzero)).mpr bits
    have small : rounded < 2 ^ 52 := (Nat.log2_lt (Nat.ne_of_gt nonzero)).mp (by omega)
    rw [if_neg normal, unpackExponent_packComponents, BitVec.toNat_ofNat] at exponentValue
    rw [if_neg normal, unpackMantissa_packComponents, BitVec.toNat_ofNat] at mantissaValue
    omega

theorem ofScientific_finite {digits power limit : Nat} (positive : 0 < digits)
    (few : power ≤ 2048) (small : digits * 10 ^ power < 2 ^ limit) (limited : limit ≤ 1022) :
    let x := Float.ofModel (.ofScientific digits power)
    0 < magnitude x ∧ isFinite x = true := by
  intro x
  have product : 0 < digits <<< 53 * 10 ^ power := by
    rw [Nat.shiftLeft_eq]
    positivity
  have bound : digits <<< 53 * 10 ^ power < 2 ^ (limit + 53) := by
    rw [Nat.shiftLeft_eq, Nat.pow_add]
    calc digits * 2 ^ 53 * 10 ^ power
        _ = digits * 10 ^ power * 2 ^ 53 := by ring
        _ < 2 ^ limit * 2 ^ 53 := Nat.mul_lt_mul_of_pos_right small (by positivity)
  have bits : (digits <<< 53 * 10 ^ power).log2 < limit + 53 :=
    (Nat.log2_lt (Nat.ne_of_gt product)).mpr bound
  have inReach : (-1074 : Int) ≤ -53 + 0 := by omega
  obtain ⟨rounded, final, nonzero, same, roundedBits, low, high⟩ :=
    roundWithAccuracy_finite product inReach (.positive * .positive) .exact
  have computed : ofScientific Format.binary64 digits power =
      .finite (.positive * .positive) rounded final nonzero := by
    unfold ofScientific
    rw [dif_neg (Nat.ne_of_gt positive), if_neg, if_neg, if_pos (Int.natCast_nonneg power)]
    · exact same
    · change ¬((power : Int) < -(2048 + digits.log2))
      omega
    · change ¬((power : Int) > 2048)
      omega
  change 0 < magnitude (Float.ofModel (.pack (ofScientific Format.binary64 digits power))) ∧
    isFinite (Float.ofModel (.pack (ofScientific Format.binary64 digits power))) = true
  rw [computed]
  exact pack_finite nonzero roundedBits low (by omega) _

/-- The powers of ten that decimals are scaled by are finite, and none of them is zero. -/
theorem powerOfTen_finite {power : Nat} (bound : power ≤ Json.maxPower) :
    0 < magnitude (Json.powerOfTen power) ∧ isFinite (Json.powerOfTen power) = true := by
  have first : ∀ power < 23,
      0 < magnitude (Json.powerOfTen power) ∧ isFinite (Json.powerOfTen power) = true := by
    decide +kernel
  have last : 0 < magnitude (Json.powerOfTen 308) ∧ isFinite (Json.powerOfTen 308) = true := by
    decide +kernel
  unfold Json.maxPower at bound
  by_cases exact : power < 23
  · exact first power exact
  by_cases greatest : power = 308
  · rw [greatest]
    exact last
  have small : 1 * 10 ^ power < 2 ^ 1022 := by
    rw [Nat.one_mul]
    calc 10 ^ power
        _ ≤ 10 ^ 307 := Nat.pow_le_pow_right (by omega) (by omega)
        _ < 2 ^ 1022 := by decide +kernel
  have computed : Json.powerOfTen power = Float.ofModel (.ofScientific 1 power) := by
    unfold Json.powerOfTen Float.ofScientific
    rw [dif_neg (by omega)]
    rfl
  rw [computed]
  exact ofScientific_finite (by omega) (by omega) small (by omega)

end ProductCatalog.Decimal
