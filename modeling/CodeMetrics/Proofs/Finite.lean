import Mathlib
import CodeMetrics.Json.Decode

/-!
Figures read from documents are finite. A double in a document is finite as it stands, and an
integer of 64 bits is far too small for the double nearest to it to be infinite: that takes a
power of two above 1023.
-/

namespace CodeMetrics

open Float.Model hiding pack unpack
open Float.Model.UnpackedFloat

/-- Zero, or a finite double whose exponent does not pass a limit. -/
inductive Below (limit : Int) : UnpackedFloat → Prop where
  | zero (sign : Sign) : Below limit (.zero sign)
  | finite (sign : Sign) {mantissa : Nat} {exponent : Int} (positive : 0 < mantissa)
      (low : exponent ≤ limit) : Below limit (.finite sign mantissa exponent positive)

/-! Rounding to 53 binary digits, which raises an exponent by the digits that are dropped. -/

theorem mantissa_shiftRight_le (extended : ExtendedMantissa) (places : Nat) :
    (extended >>> places).mantissa ≤ extended.mantissa := by
  induction places with
  | zero => exact Nat.le_refl _
  | succ places ih => exact Nat.le_trans (Nat.div_le_self ..) ih

theorem roundedMantissa_le (extended : ExtendedMantissa) :
    extended.roundedMantissa ≤ extended.mantissa + 1 := by
  rcases extended with ⟨mantissa, roundBit, stickyBit⟩
  have parity := Nat.mod_lt mantissa (y := 2) (by decide)
  cases roundBit <;> cases stickyBit <;>
    simp only [ExtendedMantissa.roundedMantissa, ExtendedMantissa.accuracy,
      Accuracy.roundToNearestEven] <;> omega

theorem targetExponent_binary64 (mantissa : Nat) (exponent : Int) :
    Format.binary64.targetExponent (totalExponent mantissa exponent) =
      max (mantissa.log2 + 1 + exponent - 53) (-1074) := rfl

theorem shiftToTargetExponent_le {mantissa : Nat} (digits : Nat) (exponent : Int)
    (accuracy : Accuracy) (fits : mantissa < 2 ^ (digits + 1)) :
    (shiftToTargetExponent .binary64 mantissa exponent accuracy).1.mantissa ≤ mantissa ∧
    (shiftToTargetExponent .binary64 mantissa exponent accuracy).2 ≤
      max exponent (max (digits + 1 + exponent - 53) (-1074)) := by
  constructor
  · refine Nat.le_trans (mantissa_shiftRight_le _ _) ?_
    cases accuracy with
    | exact => exact Nat.le_refl _
    | inexact place => cases place <;> exact Nat.le_refl _
  · have places : mantissa.log2 ≤ digits := by
      by_cases zero : mantissa = 0
      · simp [zero]
      · exact Nat.le_of_lt_succ ((Nat.log2_lt zero).mpr fits)
    simp only [shiftToTargetExponent, shiftToExponent, targetExponent_binary64]
    omega

/-- Rounding twice raises the exponent of a mantissa of 128 digits by no more than 151. -/
theorem below_roundWithAccuracy {mantissa : Nat} {exponent limit : Int} (sign : Sign)
    (accuracy : Accuracy) (fits : mantissa < 2 ^ 128) (least : -923 ≤ limit)
    (low : exponent + 151 ≤ limit) :
    Below limit (roundWithAccuracy .binary64 sign mantissa exponent accuracy) := by
  rcases shiftToTargetExponent_le 127 exponent accuracy fits with ⟨narrow, near⟩
  have rounded := roundedMantissa_le (shiftToTargetExponent .binary64 mantissa exponent accuracy).1
  -- Rounding up may carry into one more digit, for which the mantissa is shifted once more.
  obtain ⟨-, near'⟩ := shiftToTargetExponent_le 128
    (shiftToTargetExponent .binary64 mantissa exponent accuracy).2 .exact
    (Nat.lt_of_le_of_lt rounded (by omega))
  rw [roundWithAccuracy]
  dsimp only
  split
  · exact .zero _
  · exact .finite _ _ (by omega)

theorem below_mul {left right : Nat} {first second limit : Int} (sign other : Sign)
    (leftPositive : 0 < left) (rightPositive : 0 < right) (fits : left * right < 2 ^ 128)
    (least : -923 ≤ limit) (low : first + second + 151 ≤ limit) :
    Below limit (mul .binary64 (.finite sign left first leftPositive)
      (.finite other right second rightPositive)) :=
  below_roundWithAccuracy _ .exact fits least low

/-! Doubles as bits. An exponent is packed with a bias of 1075; 2047 marks what is not finite. -/

theorem below_unpack {limit : Int} {bits : BitVec Format.binary64.numBits} (least : -1074 ≤ limit)
    (finite : unpackExponent bits ≠ -1#_) (low : (unpackExponent bits).toNat ≤ limit + 1075) :
    Below limit (unpack .binary64 bits) := by
  have bias : ((Format.binary64.exponentBias : Nat) : Int) = 1023 := rfl
  rw [unpack]
  dsimp only
  rw [if_neg finite, bias]
  split
  · -- A biased exponent of zero is that of the subnormal numbers, the least there is.
    rename_i zero
    split
    · exact .zero _
    · rw [zero]
      exact .finite _ _ least
  · exact .finite _ _ (by omega)

theorem exponent_pack_le (sign : Sign) {mantissa : Nat} (exponent : Int)
    (positive : 0 < mantissa) (most : exponent ≤ 971) :
    (unpackExponent (pack .binary64 (.finite sign mantissa exponent positive))).toNat ≤
      (exponent + 1075).toNat := by
  have biased : exponent + (Format.binary64.exponentBias : Nat) +
      (Format.binary64.mantissaBitsWithoutImplicit : Nat) = exponent + 1075 :=
    Int.add_assoc exponent 1023 52
  have range : 2 ^ Format.binary64.exponentBits = 2048 := rfl
  rw [pack]
  dsimp only
  rw [biased, range, if_neg (by omega)]
  split
  · rw [unpackExponent_packComponents, BitVec.toNat_ofNat]
    exact Nat.mod_le ..
  · rw [unpackExponent_packComponents]
    exact Nat.zero_le _

theorem below_unpack_pack {limit : Int} (least : -1074 ≤ limit) (most : limit ≤ 971)
    {value : UnpackedFloat} (below : Below limit value) :
    Below limit (unpack .binary64 (pack .binary64 value)) := by
  cases below with
  | zero sign =>
      have none : unpackExponent (pack .binary64 (.zero sign)) = 0#11 := by
        rw [pack, packedZero, unpackExponent_packComponents]
        rfl
      apply below_unpack least
      · rw [none]
        decide
      · rw [none]
        show (0 : Int) ≤ limit + 1075
        omega
  | @finite sign mantissa exponent positive low =>
      have kept := exponent_pack_le sign exponent positive (by omega)
      have ones : (-1#_ : BitVec Format.binary64.exponentBits).toNat = 2047 := rfl
      apply below_unpack least
      · intro full
        rw [full, ones] at kept
        omega
      · omega

/-- Every finite double is low enough to be packed again. -/
theorem below_of_isFinite {bits : BitVec Format.binary64.numBits}
    (finite : (unpack .binary64 bits).isFinite = true) :
    Below 971 (unpack .binary64 bits) := by
  -- The exponent of all ones is kept for what is not finite.
  have proper : unpackExponent bits ≠ -1#_ := by
    intro full
    rw [unpack] at finite
    dsimp only at finite
    rw [if_pos full] at finite
    split at finite <;> cases finite
  have size : (unpackExponent bits).toNat < 2048 := (unpackExponent bits).isLt
  have other : (unpackExponent bits).toNat ≠ 2047 := fun same =>
    proper (BitVec.eq_of_toNat_eq same)
  exact below_unpack (by decide) proper (by omega)

theorem Below.isFinite {limit : Int} {value : UnpackedFloat} (below : Below limit value) :
    value.isFinite = true := by
  cases below <;> rfl

theorem Below.neg {limit : Int} {value : UnpackedFloat} (below : Below limit value) :
    Below limit value.neg := by
  cases below with
  | zero sign => exact .zero _
  | finite sign positive low => exact .finite _ positive low

theorem isFinite_pack (limit : Int) (least : -1074 ≤ limit) (most : limit ≤ 971)
    {value : UnpackedFloat} (below : Below limit value) :
    (Float.ofModel (Float.Model.pack value)).isFinite = true :=
  (below_unpack_pack least most below).isFinite

theorem isFinite_neg {value : Float} (finite : value.isFinite = true) :
    value.neg.isFinite = true :=
  isFinite_pack 971 (by decide) (by decide) (below_of_isFinite finite).neg

/-! Integers of 64 bits. Those below `2 ^ 53` are first a double, then multiplied by one; the others
are scaled up by 53 places and divided again by the exponent. -/

theorem mantissa_lt {bits : BitVec Format.binary64.numBits} {sign : Sign} {mantissa : Nat}
    {exponent : Int} {positive : 0 < mantissa}
    (unpacked : unpack .binary64 bits = .finite sign mantissa exponent positive) :
    mantissa < 2 ^ 53 := by
  rw [unpack] at unpacked
  dsimp only at unpacked
  split at unpacked
  · split at unpacked <;> cases unpacked
  · split at unpacked
    · split at unpacked
      · cases unpacked
      · cases unpacked
        exact Nat.lt_trans (unpackMantissa bits).isLt (by decide)
    · cases unpacked
      exact (1#1 ++ unpackMantissa bits).isLt

theorem below_ofNat {value : Nat} (small : value < 2 ^ 64) :
    Below 151 (UnpackedFloat.ofNat .binary64 value) := by
  have places : (value <<< (0 - Format.binary64.targetExponent (totalExponent value 0)).toNat) <
      2 ^ 128 := by
    rw [Nat.shiftLeft_eq, targetExponent_binary64]
    calc value * 2 ^ (0 - max ((value.log2 : Int) + 1 + 0 - 53) (-1074)).toNat
        ≤ value * 2 ^ 52 := Nat.mul_le_mul_left _ (Nat.pow_le_pow_right (by decide) (by omega))
      _ < 2 ^ 128 := by omega
  rw [UnpackedFloat.ofNat, UnpackedFloat.ofInt, UnpackedFloat.normalize]
  split
  · rename_i negative
    have below_zero := Int.compare_eq_lt.mp negative
    omega
  · exact .zero _
  · rw [UnpackedFloat.round]
    dsimp only
    refine below_roundWithAccuracy _ _ ?_ (by decide) ?_
    · exact places
    · rw [decreaseExponent]
      omega

theorem one_unpack : (Float.exactlyRepresentablePowersOfTen[0]).toModel.unpack =
    .finite .positive 4503599627370496 (-52) (by decide) := by
  rfl

theorem ofScientific_zero {value : Nat} (positive : 0 < value) :
    UnpackedFloat.ofScientific .binary64 value 0 =
      mul .binary64 (.finite .positive (value <<< 53) (-53) (Nat.shiftLeft_pos_iff.mpr positive))
        (.finite .positive 1 0 (by decide)) := by
  rw [UnpackedFloat.ofScientific, dif_neg (by omega), if_neg (by decide), if_neg,
    if_pos (by decide)]
  · rfl
  · have wide : (0 : Int) ≤ 2 ^ Format.binary64.exponentBits := by decide
    omega

/-- Times one, a double keeps clear of the end of the range. -/
theorem below_mul_one {bits : BitVec Format.binary64.numBits}
    (low : Below 151 (unpack .binary64 bits)) (positive : 0 < 4503599627370496) :
    Below 250 (mul .binary64 (unpack .binary64 bits)
      (.finite .positive 4503599627370496 (-52) positive)) := by
  generalize unpacked : unpack .binary64 bits = value at low
  cases low with
  | zero sign => exact .zero _
  | finite sign nonzero low =>
      have narrow := mantissa_lt unpacked
      exact below_mul _ _ _ _ (by omega) (by decide) (by omega)

theorem isFinite_ofNat {value : Nat} (small : value < 2 ^ 64) :
    (Float.ofNat value).isFinite = true := by
  unfold Float.ofNat
  show (Float.ofScientific value false 0).isFinite = true
  rw [Float.ofScientific]
  split
  · -- The powers of ten are tabulated, and the power for an integer is one.
    have kept : value.toUInt64.toNat = value := Nat.mod_eq_of_lt small
    have low : Below 151 (unpack .binary64 (pack .binary64
        (UnpackedFloat.ofUInt64 .binary64 value.toUInt64))) := by
      apply below_unpack_pack (by decide) (by decide)
      rw [UnpackedFloat.ofUInt64, kept]
      exact below_ofNat small
    have product := below_mul_one low (by decide)
    rw [← one_unpack] at product
    exact isFinite_pack 250 (by decide) (by decide) product
  · rename_i large
    have positive : 0 < value := by omega
    have fits : value <<< 53 * 1 < 2 ^ 128 := by
      rw [Nat.shiftLeft_eq]
      omega
    have power : (if false = true then Int.negOfNat 0 else Int.ofNat 0) = 0 := rfl
    apply isFinite_pack 151 (by decide) (by decide)
    rw [power, ofScientific_zero positive]
    exact below_mul _ _ _ _ fits (by decide) (by decide)

theorem isFinite_ofInt {value : Int} (lower : -9223372036854775808 ≤ value)
    (upper : value < 18446744073709551616) : (Float.ofInt value).isFinite = true := by
  cases value with
  | ofNat magnitude =>
      unfold Float.ofInt
      exact isFinite_ofNat (Int.ofNat_lt.mp upper)
  | negSucc magnitude =>
      unfold Float.ofInt
      exact isFinite_neg (isFinite_ofNat (by omega))

theorem Json.isFinite_toFloat {value : Json} {figure : Float}
    (read : toFloat value = .ok figure) : figure.isFinite = true := by
  unfold toFloat at read
  split at read
  · rename_i finite
    cases read
    exact finite
  · rename_i number lower upper
    cases read
    exact isFinite_ofInt lower upper
  · cases read

end CodeMetrics
