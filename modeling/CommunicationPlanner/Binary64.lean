import Mathlib.Data.Prod.Lex
import Mathlib.Data.Int.Order.Basic
import Mathlib.Order.Basic

/-!
# IEEE 754 binary64 values as bit patterns

A `Binary64` is one of the `2 ^ 64` bit patterns of a C `double`, NaN payloads
included, so that copying a value to and from an eight-byte field loses
nothing.  Arithmetic and comparisons are those of the `Float` model of the
Lean core library, which canonicalises the NaN that an operation returns.

The comparisons are not a linear order: NaN is incomparable and the two zeros
are equal.  On the values that are not NaN they are nevertheless the pullback
of a linear order along `rank`, and this is the form in which sorting and
tie-breaking arguments use them.
-/

/-- The bit pattern of one C `double`. -/
structure Binary64 where
  bits : UInt64
  deriving DecidableEq, Repr

namespace Binary64

open Float.Model

/-- The floating-point datum denoted by a bit pattern. -/
def toFloat (value : Binary64) : Float :=
  Float.ofBits value.bits

/-- The bit pattern of a floating-point datum. -/
def ofFloat (value : Float) : Binary64 :=
  ⟨value.toBits⟩

/-- Conversion of an unsigned 64-bit integer, rounding to nearest even. -/
def ofUInt64 (value : UInt64) : Binary64 :=
  ofFloat value.toFloat

/-- Conversion of a signed 32-bit integer, which is exact: size, then sign. -/
def ofInt32 (value : Int32) : Binary64 :=
  let size := ofUInt64 (UInt64.ofNat value.toInt.natAbs)
  if value < 0 then ⟨size.bits ^^^ 0x8000000000000000⟩ else size

instance : Inhabited Binary64 :=
  ⟨⟨0⟩⟩

instance : OfScientific Binary64 :=
  ⟨fun mantissa negative exponent =>
    ofFloat (OfScientific.ofScientific mantissa negative exponent)⟩

instance : Add Binary64 :=
  ⟨fun first second => ofFloat (first.toFloat + second.toFloat)⟩

instance : Mul Binary64 :=
  ⟨fun first second => ofFloat (first.toFloat * second.toFloat)⟩

instance : Div Binary64 :=
  ⟨fun first second => ofFloat (first.toFloat / second.toFloat)⟩

/-- The C operator `<`. -/
def less (first second : Binary64) : Bool :=
  first.toFloat < second.toFloat

/-- The C operator `==`, which identifies the zeros and rejects NaN. -/
def same (first second : Binary64) : Bool :=
  first.toFloat == second.toFloat

/-- The C function `std::isnan`. -/
def isNaN (value : Binary64) : Bool :=
  value.toFloat.isNaN

/-- The C function `std::isinf`. -/
def isInf (value : Binary64) : Bool :=
  value.toFloat.isInf

/-- Positive infinity. -/
def posInf : Binary64 :=
  ⟨0x7FF0000000000000⟩

/-- `std::min`, which keeps its first argument unless the second is smaller. -/
def minimum (first second : Binary64) : Binary64 :=
  if second.less first then second else first

/-- The unpacked form through which every operation of the model goes. -/
def unpacked (value : Binary64) : UnpackedFloat :=
  value.toFloat.toModel.unpack

/-- The three-level key that orders every unpacked datum except NaN. -/
def unpackedRank : UnpackedFloat → ℤ ×ₗ ℤ ×ₗ ℤ
  | .notANumber => toLex (0, toLex (0, 0))
  | .infinity .negative => toLex (-2, toLex (0, 0))
  | .infinity .positive => toLex (2, toLex (0, 0))
  | .zero _ => toLex (0, toLex (0, 0))
  | .finite .negative mantissa exponent _ =>
      toLex (-1, toLex (-exponent, -(mantissa : ℤ)))
  | .finite .positive mantissa exponent _ =>
      toLex (1, toLex (exponent, (mantissa : ℤ)))

/-- Position of a value that is not NaN in the IEEE order. -/
def rank (value : Binary64) : ℤ ×ₗ ℤ ×ₗ ℤ :=
  unpackedRank value.unpacked

theorem isNaN_eq_unpacked
    (value : Binary64) :
    value.isNaN = value.unpacked.isNaN :=
  rfl

/-- Negating both integers reverses their comparison. -/
private theorem compare_neg_neg
    (first second : ℤ) :
    compare (-first) (-second) = (compare first second).swap := by
  rcases lt_trichotomy first second with below | equal | above
  · rw [compare_lt_iff_lt.mpr below,
      compare_gt_iff_gt.mpr (Int.neg_lt_neg below)]
    rfl
  · subst equal
    simp
  · rw [compare_gt_iff_gt.mpr above,
      compare_lt_iff_lt.mpr (Int.neg_lt_neg above)]
    rfl

/-- The embedding of the naturals into the integers keeps comparisons. -/
private theorem compare_natCast
    (first second : ℕ) :
    compare (first : ℤ) (second : ℤ) = compare first second := by
  rcases lt_trichotomy first second with below | equal | above
  · rw [compare_lt_iff_lt.mpr below,
      compare_lt_iff_lt.mpr (Int.ofNat_lt.mpr below)]
  · subst equal
    simp
  · rw [compare_gt_iff_gt.mpr above,
      compare_gt_iff_gt.mpr (Int.ofNat_lt.mpr above)]

/--
Away from NaN the comparison of unpacked data is the comparison of their
ranks; the exponent and the mantissa decide only between two finite data of
one sign.
-/
theorem unpacked_compare
    {first second : UnpackedFloat}
    (firstNumber : first.isNaN = false)
    (secondNumber : second.isNaN = false) :
    first.compare second =
      some (compare (unpackedRank first) (unpackedRank second)) := by
  cases first with
  | notANumber =>
      cases firstNumber
  | infinity firstSign =>
      cases second with
      | notANumber =>
          cases secondNumber
      | infinity secondSign =>
          cases firstSign <;> cases secondSign <;> decide
      | zero secondSign =>
          cases firstSign <;> rfl
      | finite secondSign mantissa exponent positive =>
          cases firstSign <;> cases secondSign <;> rfl
  | zero firstSign =>
      cases second with
      | notANumber =>
          cases secondNumber
      | infinity secondSign =>
          cases secondSign <;> rfl
      | zero secondSign =>
          rfl
      | finite secondSign mantissa exponent positive =>
          cases secondSign <;> rfl
  | finite firstSign firstMantissa firstExponent firstPositive =>
      cases second with
      | notANumber =>
          cases secondNumber
      | infinity secondSign =>
          cases firstSign <;> cases secondSign <;> rfl
      | zero secondSign =>
          cases firstSign <;> rfl
      | finite secondSign secondMantissa secondExponent secondPositive =>
          have lexCompare :
              ∀ a b c d e f : ℤ,
                compare (toLex (a, toLex (b, c)))
                    (toLex (d, toLex (e, f))) =
                  (compare a d).then
                    ((compare b e).then (compare c f)) := by
            intro a b c d e f
            simp [Prod.Lex.compare_def, compareLex, compareOn]
          cases firstSign with
          | negative =>
              cases secondSign with
              | negative =>
                  dsimp only [UnpackedFloat.compare, unpackedRank]
                  simp only [lexCompare, compare_neg_neg, compare_natCast,
                    Ordering.swap_then]
                  rfl
              | positive =>
                  rfl
          | positive =>
              cases secondSign with
              | negative =>
                  rfl
              | positive =>
                  dsimp only [UnpackedFloat.compare, unpackedRank]
                  simp only [lexCompare, compare_natCast]
                  rfl

/-- Away from NaN, `<` is the order of ranks. -/
theorem less_iff_rank
    {first second : Binary64}
    (firstNumber : first.isNaN = false)
    (secondNumber : second.isNaN = false) :
    first.less second = true ↔ first.rank < second.rank := by
  have compared :
      first.unpacked.compare second.unpacked =
        some (compare first.rank second.rank) :=
    unpacked_compare firstNumber secondNumber
  have lessShape :
      first.less second =
        (first.unpacked.compare second.unpacked == some .lt) := by
    change
      decide (decide
          ((first.unpacked.compare second.unpacked == some .lt) = true) =
        true) = _
    simp only [Bool.decide_eq_true]
  rw [lessShape, compared]
  simp only [Option.some_beq_some, beq_iff_eq]
  exact compare_lt_iff_lt

/-- Away from NaN, `==` is equality of ranks. -/
theorem same_iff_rank
    {first second : Binary64}
    (firstNumber : first.isNaN = false)
    (secondNumber : second.isNaN = false) :
    first.same second = true ↔ first.rank = second.rank := by
  have compared :
      first.unpacked.compare second.unpacked =
        some (compare first.rank second.rank) :=
    unpacked_compare firstNumber secondNumber
  have sameShape :
      first.same second =
        (first.unpacked.compare second.unpacked == some .eq) :=
    rfl
  rw [sameShape, compared]
  simp only [Option.some_beq_some, beq_iff_eq]
  exact compare_eq_iff_eq

/-- A choice between two data that are not NaN is not NaN. -/
private theorem isNaN_dite
    {condition : Prop}
    [Decidable condition]
    {positive : condition → UnpackedFloat}
    {negative : ¬condition → UnpackedFloat}
    (positiveNumber : ∀ holds, (positive holds).isNaN = false)
    (negativeNumber : ∀ fails, (negative fails).isNaN = false) :
    (dite condition positive negative).isNaN = false := by
  by_cases holds : condition
  · rw [dif_pos holds]
    exact positiveNumber holds
  · rw [dif_neg holds]
    exact negativeNumber holds

/-- Assembling components whose exponent is not all ones never gives NaN. -/
private theorem isNaN_unpack_packComponents
    (sign : UnpackedFloat.Sign)
    {exponent : BitVec Format.binary64.exponentBits}
    (mantissa : BitVec Format.binary64.mantissaBitsWithoutImplicit)
    (small : exponent ≠ -1#_) :
    (UnpackedFloat.unpack Format.binary64
        (UnpackedFloat.packComponents Format.binary64
          sign exponent mantissa)).isNaN = false := by
  have notAllOnes :
      UnpackedFloat.unpackExponent (UnpackedFloat.packComponents
        Format.binary64 sign exponent mantissa) ≠ -1#_ := by
    rw [UnpackedFloat.unpackExponent_packComponents]
    exact small
  delta UnpackedFloat.unpack
  dsimp only
  rw [if_neg notAllOnes]
  by_cases subnormal :
      UnpackedFloat.unpackExponent (UnpackedFloat.packComponents
        Format.binary64 sign exponent mantissa) = 0#_
  · rw [if_pos subnormal]
    exact isNaN_dite (fun _ => rfl) (fun _ => rfl)
  · rw [if_neg subnormal]
    rfl

/--
Packing an unpacked datum and unpacking it keeps whether it is NaN; where the
exponent overflows, the datum packs to an infinity.
-/
theorem isNaN_unpack_pack
    (value : UnpackedFloat) :
    (UnpackedFloat.unpack Format.binary64
        (UnpackedFloat.pack Format.binary64 value)).isNaN =
      value.isNaN := by
  cases value with
  | notANumber =>
      decide
  | infinity sign =>
      cases sign <;> decide
  | zero sign =>
      cases sign <;> decide
  | finite sign mantissa exponent positive =>
      change _ = false
      delta UnpackedFloat.pack
      dsimp only
      split
      · cases sign <;> decide
      · rename_i inRange
        split
        · apply isNaN_unpack_packComponents
          intro allOnes
          have values := congrArg BitVec.toNat allOnes
          simp only [BitVec.toNat_ofNat] at values
          rw [Nat.mod_eq_of_lt (by omega)] at values
          have ones :
              (-BitVec.ofNat Format.binary64.exponentBits 1).toNat =
                2047 := by
            decide
          rw [ones] at values
          apply inRange
          rw [values]
        · apply isNaN_unpack_packComponents
          decide

/-- The bit pattern of a datum is NaN exactly when the datum is. -/
theorem isNaN_ofFloat
    (value : Float) :
    (ofFloat value).isNaN = value.isNaN :=
  isNaN_unpack_pack value.toModel.unpack

/-- Rounding a finite quantity never gives NaN. -/
private theorem isNaN_normalize
    (mantissa exponent : ℤ)
    (zeroSign : UnpackedFloat.Sign) :
    (UnpackedFloat.normalize Format.binary64
      mantissa exponent zeroSign).isNaN = false := by
  have rounded :
      ∀ sign magnitude,
        (UnpackedFloat.round Format.binary64
          sign magnitude exponent).isNaN = false := by
    intro sign magnitude
    exact isNaN_dite (fun _ => rfl) (fun _ => rfl)
  simp only [UnpackedFloat.normalize]
  split
  · exact rounded _ _
  · rfl
  · exact rounded _ _

/-- An unsigned integer converts to a number. -/
theorem isNaN_ofUInt64
    (value : UInt64) :
    (ofUInt64 value).isNaN = false := by
  have unpackedForm :
      (ofUInt64 value).isNaN =
        (UnpackedFloat.ofUInt64 Format.binary64 value).isNaN := by
    unfold ofUInt64
    rw [isNaN_ofFloat]
    exact isNaN_unpack_pack _
  rw [unpackedForm]
  exact isNaN_normalize _ _ _

/-- A bounded number is a zero or has a mantissa. -/
theorem bounded_cases
    {value : Binary64}
    (number : value.isNaN = false)
    (bounded : value.isInf = false) :
    (∃ sign, value.unpacked = .zero sign) ∨
    (∃ sign mantissa exponent positive,
      value.unpacked = .finite sign mantissa exponent positive) := by
  have unpackedNumber : value.unpacked.isNaN = false := number
  have unpackedBounded : value.unpacked.isInf = false := bounded
  cases shape : value.unpacked with
  | notANumber =>
      rw [shape] at unpackedNumber
      cases unpackedNumber
  | infinity sign =>
      rw [shape] at unpackedBounded
      cases unpackedBounded
  | zero sign =>
      exact .inl ⟨sign, rfl⟩
  | finite sign mantissa exponent positive =>
      exact .inr ⟨sign, mantissa, exponent, positive, rfl⟩

/-- Adding a finite number to a number never gives NaN. -/
theorem isNaN_add
    {first second : Binary64}
    (firstNumber : first.isNaN = false)
    (secondNumber : second.isNaN = false)
    (secondBounded : second.isInf = false) :
    (first + second).isNaN = false := by
  have summed :
      (first + second).isNaN =
        (UnpackedFloat.add Format.binary64
          first.unpacked second.unpacked).isNaN := by
    change (ofFloat (first.toFloat + second.toFloat)).isNaN = _
    rw [isNaN_ofFloat]
    exact isNaN_unpack_pack _
  rw [isNaN_eq_unpacked] at firstNumber
  rw [summed]
  rcases bounded_cases secondNumber secondBounded with
    ⟨secondSign, secondShape⟩ |
    ⟨secondSign, mantissa, exponent, positive, secondShape⟩
  · rw [secondShape]
    cases firstShape : first.unpacked with
    | notANumber =>
        rw [firstShape] at firstNumber
        cases firstNumber
    | infinity firstSign =>
        rfl
    | zero firstSign =>
        cases firstSign <;> cases secondSign <;> rfl
    | finite firstSign firstMantissa firstExponent firstPositive =>
        rfl
  · rw [secondShape]
    cases firstShape : first.unpacked with
    | notANumber =>
        rw [firstShape] at firstNumber
        cases firstNumber
    | infinity firstSign =>
        rfl
    | zero firstSign =>
        rfl
    | finite firstSign firstMantissa firstExponent firstPositive =>
        exact isNaN_normalize _ _ _

end Binary64
