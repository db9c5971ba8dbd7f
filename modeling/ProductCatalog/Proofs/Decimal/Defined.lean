import Mathlib.Tactic.SplitIfs
import ProductCatalog.Json.Decode

/-! Numbers that are read from decimals are never undefined. A number is undefined if the bits of
its exponent are all set and some bit of its fraction is, and nothing is packed into such bits but
the outcome of an operation that has none. -/

namespace ProductCatalog.Decimal

open Float.Model (Format UnpackedFloat)
open Float.Model.UnpackedFloat

theorem isUndefined_of_isFinite {x : Float} (finite : isFinite x = true) :
    isUndefined x = false := by
  simp only [isFinite, isUndefined, decide_eq_true_eq, decide_eq_false_iff_not] at finite ⊢
  omega

theorem isUndefined_unsignedZero (x : Float) : isUndefined (unsignedZero x) = isUndefined x := by
  unfold unsignedZero
  split
  · rename_i zero
    have none : magnitude x = 0 := by
      simp only [rank] at zero
      split at zero <;> omega
    have defined : isUndefined x = false := by
      simp [isUndefined, none]
    rw [defined]
    decide
  · rfl

theorem rank_unsignedZero (x : Float) : rank (unsignedZero x) = rank x := by
  unfold unsignedZero
  split
  · rename_i zero
    rw [zero]
    decide
  · rfl

theorem isSame_unsignedZero {x : Float} (defined : isUndefined x = false) :
    isSame (unsignedZero x) x = true := by
  simp only [isSame, isUndefined_unsignedZero, defined, rank_unsignedZero, Bool.not_false,
    Bool.true_and, decide_true]

theorem isFinite_unsignedZero (x : Float) : isFinite (unsignedZero x) = isFinite x := by
  have sameRank := rank_unsignedZero x
  have same : magnitude (unsignedZero x) = magnitude x := by
    unfold rank at sameRank
    split at sameRank <;> split at sameRank <;> omega
  rw [isFinite, isFinite, same]

abbrev Bits := BitVec Format.binary64.numBits

theorem toNat_unpackExponent (bits : Bits) :
    (unpackExponent bits).toNat = bits.toNat % signBit / exponentBit := by
  simp only [unpackExponent, BitVec.toNat_cast, BitVec.extractLsb_toNat, exponentBit, signBit,
    Nat.shiftRight_eq_div_pow]
  omega

theorem toNat_unpackMantissa (bits : Bits) :
    (unpackMantissa bits).toNat = bits.toNat % signBit % exponentBit := by
  simp only [unpackMantissa, BitVec.toNat_cast, BitVec.extractLsb_toNat, exponentBit, signBit,
    Nat.shiftRight_eq_div_pow]
  omega

theorem toNat_ones : (-1#11).toNat = 2047 := by decide

theorem beyond_infinite_iff (bits : Bits) :
    infiniteMagnitude < bits.toNat % signBit ↔
      unpackExponent bits = -1#_ ∧ unpackMantissa bits ≠ 0#_ := by
  have bound : bits.toNat % signBit < signBit := Nat.mod_lt _ (by decide)
  rw [← BitVec.toNat_inj, ne_eq, ← BitVec.toNat_inj, toNat_unpackExponent, toNat_unpackMantissa,
    toNat_ones, BitVec.toNat_zero]
  unfold infiniteMagnitude exponentBit
  unfold signBit at bound ⊢
  omega

theorem unpack_eq_notANumber_iff (bits : Bits) :
    unpack Format.binary64 bits = .notANumber ↔ infiniteMagnitude < bits.toNat % signBit := by
  rw [beyond_infinite_iff]
  unfold unpack
  dsimp only
  by_cases ones : unpackExponent bits = -1#_
  · rw [if_pos ones]
    by_cases whole : unpackMantissa bits = 0#_
    · rw [if_pos whole]
      exact iff_of_false nofun fun both => both.2 whole
    · rw [if_neg whole]
      exact iff_of_true rfl ⟨ones, whole⟩
  · rw [if_neg ones]
    refine iff_of_false ?_ fun both => ones both.1
    by_cases subnormal : unpackExponent bits = 0#_
    · rw [if_pos subnormal]
      by_cases whole : unpackMantissa bits = 0#_
      · rw [dif_pos whole]
        exact nofun
      · rw [dif_neg whole]
        exact nofun
    · rw [if_neg subnormal]
      exact nofun

theorem isUndefined_eq_false_iff (x : Float) :
    isUndefined x = false ↔ x.toModel.unpack ≠ .notANumber := by
  rw [Bool.eq_false_iff, ne_eq, ne_eq, isUndefined, decide_eq_true_iff]
  exact not_congr (unpack_eq_notANumber_iff x.toModel.toBits.toBitVec).symm

theorem leadingOne_pos {width : Nat} (fraction : BitVec width) : 0 < (1#1 ++ fraction).toNat := by
  simp

theorem unpack_between {bits : Bits} (nonzero : 0 < bits.toNat % signBit)
    (finite : bits.toNat % signBit < infiniteMagnitude) :
    ∃ sign mantissa exponent positive,
      unpack Format.binary64 bits = .finite sign mantissa exponent positive := by
  have exponentValue := toNat_unpackExponent bits
  have mantissaValue := toNat_unpackMantissa bits
  unfold infiniteMagnitude at finite
  unfold exponentBit at exponentValue mantissaValue
  have notOnes : unpackExponent bits ≠ -1#_ := by
    intro ones
    rw [ones, toNat_ones] at exponentValue
    omega
  unfold unpack
  dsimp only
  rw [if_neg notOnes]
  by_cases subnormal : unpackExponent bits = 0#_
  · rw [subnormal, BitVec.toNat_zero] at exponentValue
    have positive : 0 < (unpackMantissa bits).toNat := by omega
    have notWhole : unpackMantissa bits ≠ 0#_ := by
      intro whole
      rw [whole, BitVec.toNat_zero] at positive
      omega
    rw [if_pos subnormal, dif_neg notWhole]
    exact ⟨_, _, _, positive, rfl⟩
  · rw [if_neg subnormal]
    exact ⟨_, _, _, leadingOne_pos (unpackMantissa bits), rfl⟩

theorem unpack_of_finite {x : Float} (nonzero : 0 < magnitude x) (finite : isFinite x = true) :
    ∃ sign mantissa exponent positive,
      x.toModel.unpack = .finite sign mantissa exponent positive :=
  unpack_between nonzero (of_decide_eq_true finite)

/-- The bits of a number that is finite: those of infinity if its exponent is out of reach, and no
exponent at all if its mantissa has fewer bits than are kept. -/
theorem pack_of_finite (sign : UnpackedFloat.Sign) (mantissa : Nat) (exponent : Int)
    (positive : 0 < mantissa) :
    pack Format.binary64 (.finite sign mantissa exponent positive) =
      let code := (exponent + 1023 + 52).toNat
      if 2048 ≤ code + 1 then packedInfinity Format.binary64 sign
      else if mantissa.log2 + 1 = 53 then
        packComponents Format.binary64 sign (BitVec.ofNat 11 code) (BitVec.ofNat 52 mantissa)
      else packComponents Format.binary64 sign 0#11 (BitVec.ofNat 52 mantissa) := rfl

theorem isUndefined_pack {value : UnpackedFloat} (defined : value ≠ .notANumber) :
    isUndefined (.ofModel (.pack value)) = false := by
  rw [Bool.eq_false_iff, ne_eq, isUndefined, decide_eq_true_iff]
  change ¬infiniteMagnitude < (pack Format.binary64 value).toNat % signBit
  rw [beyond_infinite_iff]
  have infinity (sign : UnpackedFloat.Sign) :
      unpackMantissa (packedInfinity Format.binary64 sign) = 0#_ := by
    simp [packedInfinity]
  rintro ⟨ones, fraction⟩
  cases value with
  | notANumber => exact defined rfl
  | infinity sign => exact fraction (infinity sign)
  | zero sign =>
      have zero : unpackMantissa (packedZero Format.binary64 sign) = 0#_ := by
        simp [packedZero]
      exact fraction zero
  | finite sign mantissa exponent positive =>
      rw [pack_of_finite] at ones fraction
      dsimp only at ones fraction
      split_ifs at ones fraction with large normal
      · exact fraction (infinity sign)
      · rw [unpackExponent_packComponents] at ones
        have code := congrArg BitVec.toNat ones
        rw [toNat_ones, BitVec.toNat_ofNat] at code
        omega
      · rw [unpackExponent_packComponents] at ones
        exact absurd ones (by decide)

theorem finiteOrZero_defined (sign : UnpackedFloat.Sign) (mantissa : Nat) (exponent : Int) :
    (if zero : mantissa = 0 then UnpackedFloat.zero sign
      else .finite sign mantissa exponent (Nat.pos_of_ne_zero zero)) ≠ .notANumber := by
  by_cases zero : mantissa = 0
  · rw [dif_pos zero]
    exact nofun
  · rw [dif_neg zero]
    exact nofun

theorem roundWithAccuracy_defined (spec : Format) (sign : UnpackedFloat.Sign) (mantissa : Nat)
    (exponent : Int) (accuracy : Accuracy) :
    roundWithAccuracy spec sign mantissa exponent accuracy ≠ .notANumber :=
  finiteOrZero_defined _ _ _

theorem choice_defined {p : Prop} [Decidable p] {left right : UnpackedFloat}
    (leftDefined : left ≠ .notANumber) (rightDefined : right ≠ .notANumber) :
    (if p then left else right) ≠ .notANumber := by
  by_cases first : p
  · rw [if_pos first]
    exact leftDefined
  · rw [if_neg first]
    exact rightDefined

theorem ofScientific_defined (spec : Format) (digits : Nat) (exponent : Int) :
    ofScientific spec digits exponent ≠ .notANumber := by
  unfold ofScientific
  by_cases none : digits = 0
  · rw [dif_pos none]
    exact nofun
  · rw [dif_neg none]
    refine choice_defined ?_ (choice_defined ?_ (choice_defined ?_ ?_))
    · exact nofun
    · exact nofun
    · exact roundWithAccuracy_defined _ _ _ _ _
    · exact roundWithAccuracy_defined _ _ _ _ _

theorem isUndefined_mul {x y : Float} (defined : isUndefined x = false)
    (nonzero : 0 < magnitude y) (finite : isFinite y = true) : isUndefined (x * y) = false := by
  obtain ⟨sign, mantissa, exponent, positive, unpacked⟩ := unpack_of_finite nonzero finite
  have known := (isUndefined_eq_false_iff x).mp defined
  apply isUndefined_pack
  rw [unpacked]
  cases other : x.toModel.unpack with
  | notANumber => exact absurd other known
  | infinity sign => exact nofun
  | zero sign => exact nofun
  | finite sign mantissa exponent positive => exact roundWithAccuracy_defined _ _ _ _ _

theorem isUndefined_div {x y : Float} (defined : isUndefined x = false)
    (nonzero : 0 < magnitude y) (finite : isFinite y = true) : isUndefined (x / y) = false := by
  obtain ⟨sign, mantissa, exponent, positive, unpacked⟩ := unpack_of_finite nonzero finite
  have known := (isUndefined_eq_false_iff x).mp defined
  apply isUndefined_pack
  rw [unpacked]
  cases other : x.toModel.unpack with
  | notANumber => exact absurd other known
  | infinity sign => exact nofun
  | zero sign => exact nofun
  | finite sign mantissa exponent positive => exact roundWithAccuracy_defined _ _ _ _ _

theorem isUndefined_toFloat (digits : UInt64) : isUndefined digits.toFloat = false := by
  apply isUndefined_pack
  change UnpackedFloat.normalize _ _ _ _ ≠ _
  unfold UnpackedFloat.normalize
  split
  · exact roundWithAccuracy_defined _ _ _ _ _
  · simp
  · exact roundWithAccuracy_defined _ _ _ _ _

theorem exactPowers_finite : ∀ power (bound : power < 23),
    let value := Float.exactlyRepresentablePowersOfTen[power]
    0 < magnitude value ∧ isFinite value = true := by
  decide +kernel

/-- A number that is read from digits and a power of ten is defined. -/
theorem isUndefined_ofScientific (digits : Nat) (negative : Bool) (power : Nat) :
    isUndefined (Float.ofScientific digits negative power) = false := by
  unfold Float.ofScientific
  split
  · rename_i small
    obtain ⟨nonzero, finite⟩ := exactPowers_finite power (by omega)
    have digitsDefined := isUndefined_toFloat digits.toUInt64
    split
    · exact isUndefined_div digitsDefined nonzero finite
    · exact isUndefined_mul digitsDefined nonzero finite
  · exact isUndefined_pack (ofScientific_defined _ _ _)

theorem isUndefined_negateIf {x : Float} (defined : isUndefined x = false) (negative : Bool) :
    isUndefined (negateIf negative x) = false := by
  unfold negateIf
  split
  · have magnitudeBound : magnitude x < signBit := Nat.mod_lt _ (by decide)
    have known : ¬infiniteMagnitude < magnitude x := by simpa [isUndefined] using defined
    apply isUndefined_pack
    rw [ne_eq, unpack_eq_notANumber_iff]
    change ¬infiniteMagnitude < (UInt64.ofNat (magnitude x + signBit)).toNat % signBit
    rw [UInt64.toNat_ofNat']
    unfold signBit at magnitudeBound ⊢
    omega
  · exact defined

end ProductCatalog.Decimal
