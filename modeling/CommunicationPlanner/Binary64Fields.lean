import CommunicationPlanner.Binary64
import Mathlib

/-!
# The fields of a binary64 value

A bit pattern is a sign, an exponent of 11 bits and a fraction of 52 bits.  The
classification of the values is a matter of these fields: an exponent of all
ones is an infinity or a NaN, and a value that is not NaN is below zero when its
sign is set, the negative zero apart.
-/

namespace Binary64

open Float.Model UnpackedFloat

/-- The eleven bits of the exponent. -/
def exponentField (value : Binary64) : Nat :=
  value.bits.toNat / 2 ^ 52 % 2 ^ 11

/-- The 52 bits of the fraction. -/
def fractionField (value : Binary64) : Nat :=
  value.bits.toNat % 2 ^ 52

/-- Neither an infinity nor a NaN. -/
def IsFinite (value : Binary64) : Prop :=
  value.exponentField ≠ 2047

/-- The sign is not set, or the value is the negative zero. -/
def IsNonnegative (value : Binary64) : Prop :=
  value.bits.toNat ≤ 2 ^ 63

/-- Reading a bit pattern changes none but the payload of a NaN. -/
theorem unpacked_eq
    (value : Binary64) :
    value.unpacked = UnpackedFloat.unpack Format.binary64 value.bits.toBitVec := by
  have packed :
      value.unpacked =
        UnpackedFloat.unpack Format.binary64
          (UnpackedFloat.pack Format.binary64
            (UnpackedFloat.unpack Format.binary64 value.bits.toBitVec)) :=
    rfl
  rw [packed, pack_unpack]
  by_cases isNaNPattern :
      @isNaNBits Format.binary64 value.bits.toBitVec = true
  · rw [if_pos isNaNPattern, unpack_packedNaN]
    obtain ⟨allOnes, nonzero⟩ := of_decide_eq_true isNaNPattern
    simp only [UnpackedFloat.unpack, if_pos allOnes, if_neg nonzero]
  · rw [if_neg isNaNPattern]

theorem unpackExponent_eq
    (value : Binary64) :
    (@unpackExponent Format.binary64 value.bits.toBitVec).toNat =
      value.exponentField := by
  rw [unpackExponent_def, BitVec.extractLsb'_toNat, Nat.shiftRight_eq_div_pow]
  rfl

theorem unpackMantissa_eq
    (value : Binary64) :
    (@unpackMantissa Format.binary64 value.bits.toBitVec).toNat =
      value.fractionField := by
  rw [unpackMantissa_def, BitVec.extractLsb'_toNat, Nat.shiftRight_eq_div_pow,
    pow_zero, Nat.div_one]
  rfl

theorem unpackSign_eq
    (value : Binary64) :
    (@unpackSign Format.binary64 value.bits.toBitVec).toNat =
      value.bits.toNat / 2 ^ 63 := by
  have small := value.bits.toNat_lt
  rw [unpackSign_def, BitVec.extractLsb'_toNat, Nat.shiftRight_eq_div_pow]
  change value.bits.toNat / 2 ^ 63 % 2 ^ 1 = _
  omega

theorem unpackExponent_allOnes_iff
    (value : Binary64) :
    @unpackExponent Format.binary64 value.bits.toBitVec = -1#_ ↔
      value.exponentField = 2047 := by
  have ones :
      (-BitVec.ofNat Format.binary64.exponentBits 1).toNat = 2047 := by
    decide
  rw [← BitVec.toNat_inj, unpackExponent_eq, ones]

theorem unpackExponent_zero_iff
    (value : Binary64) :
    @unpackExponent Format.binary64 value.bits.toBitVec = 0#_ ↔
      value.exponentField = 0 := by
  rw [← BitVec.toNat_inj, unpackExponent_eq, BitVec.toNat_zero]

theorem unpackMantissa_zero_iff
    (value : Binary64) :
    @unpackMantissa Format.binary64 value.bits.toBitVec = 0#_ ↔
      value.fractionField = 0 := by
  rw [← BitVec.toNat_inj, unpackMantissa_eq, BitVec.toNat_zero]

/-- The sign as the unpacked form has it. -/
def sign (value : Binary64) : Sign :=
  Sign.ofBitVec (@unpackSign Format.binary64 value.bits.toBitVec)

theorem sign_eq
    (value : Binary64) :
    value.sign =
      if value.bits.toNat < 2 ^ 63 then .positive else .negative := by
  have clear :
      @unpackSign Format.binary64 value.bits.toBitVec = 0#1 ↔
        value.bits.toNat < 2 ^ 63 := by
    rw [← BitVec.toNat_inj, unpackSign_eq, BitVec.toNat_zero]
    omega
  unfold sign Sign.ofBitVec
  simp only [clear]

/-- The three kinds of finite values. -/
theorem unpacked_of_finite
    {value : Binary64}
    (finite : value.IsFinite) :
    (value.exponentField = 0 ∧ value.fractionField = 0 ∧
        value.unpacked = .zero value.sign) ∨
      ((value.exponentField ≠ 0 ∨ value.fractionField ≠ 0) ∧
        ∃ mantissa exponent positive,
          value.unpacked =
            .finite value.sign mantissa exponent positive) := by
  have notAllOnes := mt (unpackExponent_allOnes_iff value).mp finite
  rw [unpacked_eq]
  unfold UnpackedFloat.unpack
  simp only [if_neg notAllOnes]
  by_cases isSmall :
      @unpackExponent Format.binary64 value.bits.toBitVec = 0#_
  · have smallField := (unpackExponent_zero_iff value).mp isSmall
    simp only [if_pos isSmall]
    by_cases isZero :
        @unpackMantissa Format.binary64 value.bits.toBitVec = 0#_
    · have zeroField := (unpackMantissa_zero_iff value).mp isZero
      left
      exact ⟨smallField, zeroField, by rw [dif_pos isZero]; rfl⟩
    · have nonzeroField := mt (unpackMantissa_zero_iff value).mpr isZero
      have positive := Nat.pos_of_ne_zero nonzeroField
      rw [← unpackMantissa_eq] at positive
      right
      refine ⟨.inr nonzeroField, ?_⟩
      rw [dif_neg isZero]
      exact ⟨_, _, positive, rfl⟩
  · right
    refine ⟨.inl (mt (unpackExponent_zero_iff value).mpr isSmall), ?_⟩
    have positive :
        0 < (1#1 ++ @unpackMantissa Format.binary64
          value.bits.toBitVec).toNat := by
      rw [BitVec.toNat_append]
      exact Nat.lt_of_lt_of_le (by decide) Nat.left_le_or
    rw [if_neg isSmall]
    exact ⟨_, _, positive, rfl⟩

/-- The finite values are those that are neither NaN nor infinite. -/
theorem isFinite_iff
    (value : Binary64) :
    value.IsFinite ↔ value.isNaN = false ∧ value.isInf = false := by
  have isInfShape : value.isInf = value.unpacked.isInf := rfl
  rw [isNaN_eq_unpacked, isInfShape]
  constructor
  · intro finite
    rcases unpacked_of_finite finite with
      ⟨_, _, isZero⟩ | ⟨_, mantissa, exponent, positive, isFinite⟩
    · rw [isZero]
      exact ⟨rfl, rfl⟩
    · rw [isFinite]
      exact ⟨rfl, rfl⟩
  · rintro ⟨notNaN, notInfinite⟩ field
    have allOnes := (unpackExponent_allOnes_iff value).mpr field
    rw [unpacked_eq] at notNaN notInfinite
    unfold UnpackedFloat.unpack at notNaN notInfinite
    simp only [if_pos allOnes] at notNaN notInfinite
    split at notNaN
    · rename_i isInfinity
      rw [if_pos isInfinity] at notInfinite
      cases notInfinite
    · cases notNaN

/-- A finite value is not below zero when its sign is clear or it is zero. -/
theorem less_zero_iff
    {value : Binary64}
    (finite : value.IsFinite) :
    value.less ⟨0⟩ = false ↔ value.IsNonnegative := by
  have notNaN := ((isFinite_iff value).mp finite).1
  have zeroNumber : (⟨0⟩ : Binary64).isNaN = false := by decide +kernel
  have zeroRank : (⟨0⟩ : Binary64).rank = toLex (0, toLex (0, 0)) := by
    decide +kernel
  rw [← Bool.not_eq_true, less_iff_rank notNaN zeroNumber, zeroRank, not_lt]
  unfold IsNonnegative rank
  rcases unpacked_of_finite finite with
    ⟨noExponent, noFraction, isZero⟩ |
      ⟨nonzero, mantissa, exponent, positive, isFinite⟩
  · rw [isZero]
    unfold exponentField at noExponent
    unfold fractionField at noFraction
    have small := value.bits.toNat_lt
    refine ⟨fun _ => by omega, fun _ => le_refl _⟩
  · rw [isFinite, sign_eq]
    by_cases clear : value.bits.toNat < 2 ^ 63
    · rw [if_pos clear]
      refine ⟨fun _ => clear.le, fun _ => ?_⟩
      exact Prod.Lex.toLex_le_toLex.mpr (Or.inl Int.zero_lt_one)
    · rw [if_neg clear]
      have notMinusZero : value.bits.toNat ≠ 2 ^ 63 := by
        intro isMinusZero
        unfold exponentField fractionField at nonzero
        rw [isMinusZero] at nonzero
        omega
      constructor
      · intro above
        exfalso
        rcases Prod.Lex.toLex_le_toLex.mp above with below | ⟨same, _⟩
        · change (0 : ℤ) < -1 at below
          omega
        · change (0 : ℤ) = -1 at same
          omega
      · intro small
        omega

end Binary64
