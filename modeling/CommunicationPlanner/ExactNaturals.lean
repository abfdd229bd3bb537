import CommunicationPlanner.Binary64
import Mathlib

/-!
# Natural numbers in binary64

A natural number below `2 ^ 53` is a `double`, and products of such numbers that
stay below it are exact.  `Binary64.IsNat value number` says that a value is the
number; its rules follow the operations of the `Float` model through rounding,
packing and unpacking, which on these values all do nothing.
-/

namespace Binary64

open Float.Model UnpackedFloat

/-! ## The canonical form of a number -/

/-- The mantissa of a number, shifted so that its first bit is the 53rd. -/
def mantissaOf (number : Nat) : Nat :=
  number * 2 ^ (52 - number.log2)

theorem log2_mul_two_pow
    {number : Nat}
    (positive : 0 < number)
    (shift : Nat) :
    (number * 2 ^ shift).log2 = number.log2 + shift := by
  have scaled : number * 2 ^ shift ≠ 0 := by positivity
  rw [Nat.log2_eq_iff scaled]
  have lower := Nat.log2_self_le (Nat.ne_of_gt positive)
  have upper := Nat.lt_log2_self (n := number)
  constructor
  · rw [Nat.pow_add]
    exact Nat.mul_le_mul_right _ lower
  · have shifted :
        2 ^ (number.log2 + shift + 1) = 2 ^ (number.log2 + 1) * 2 ^ shift := by
      ring
    rw [shifted]
    exact Nat.mul_lt_mul_of_pos_right upper (by positivity)

theorem log2_le_of_lt
    {number : Nat}
    (positive : 0 < number)
    (small : number < 2 ^ 53) :
    number.log2 ≤ 52 := by
  have below := (Nat.log2_lt (Nat.ne_of_gt positive)).mpr small
  omega

theorem log2_mantissaOf
    {number : Nat}
    (positive : 0 < number)
    (small : number < 2 ^ 53) :
    (mantissaOf number).log2 = 52 := by
  have short := log2_le_of_lt positive small
  rw [mantissaOf, log2_mul_two_pow positive]
  omega

theorem mantissaOf_pos
    {number : Nat}
    (positive : 0 < number) :
    0 < mantissaOf number := by
  unfold mantissaOf
  positivity

/-- The datum that denotes a number. -/
def exact (number : Nat) : UnpackedFloat :=
  if positive : 0 < number then
    .finite .positive (mantissaOf number) (number.log2 - 52)
      (mantissaOf_pos positive)
  else
    .zero .positive

theorem exact_zero :
    exact 0 = .zero .positive :=
  rfl

theorem exact_of_pos
    {number : Nat}
    (positive : 0 < number) :
    exact number =
      .finite .positive (mantissaOf number) (number.log2 - 52)
        (mantissaOf_pos positive) := by
  rw [exact, dif_pos positive]

/-- Different numbers have different data. -/
theorem exact_injective
    {first second : Nat}
    (same : exact first = exact second) :
    first = second := by
  unfold exact at same
  split_ifs at same with firstPositive secondPositive secondPositive
  · injection same with _ sameMantissa sameExponent
    have sameLog : first.log2 = second.log2 := by omega
    unfold mantissaOf at sameMantissa
    rw [sameLog] at sameMantissa
    exact Nat.eq_of_mul_eq_mul_right (by positivity) sameMantissa
  · omega

/-! ## Rounding -/

/-- Bits that are all zero are shifted out without a trace. -/
theorem shiftRight_of_dvd
    (mantissa shift : Nat) :
    (⟨mantissa * 2 ^ shift, false, false⟩ : ExtendedMantissa) >>> shift =
      ⟨mantissa, false, false⟩ := by
  induction shift generalizing mantissa with
  | zero =>
      simp [HShiftRight.hShiftRight, Nat.repeat]
  | succ shift inductionHypothesis =>
      have doubled : mantissa * 2 ^ (shift + 1) = mantissa * 2 * 2 ^ shift := by
        ring
      change ExtendedMantissa.shiftRightOne
        ((⟨mantissa * 2 ^ (shift + 1), false, false⟩ : ExtendedMantissa) >>>
          shift) = _
      rw [doubled, inductionHypothesis]
      simp [ExtendedMantissa.shiftRightOne]

/-- A number with zeros behind it is shifted to its canonical exponent. -/
theorem shiftToTargetExponent_of_exact
    {number : Nat}
    (positive : 0 < number)
    (small : number < 2 ^ 53)
    {shift : Nat}
    (enough : 52 ≤ number.log2 + shift) :
    shiftToTargetExponent Format.binary64 (number * 2 ^ shift) (-shift)
        .exact =
      (⟨mantissaOf number, false, false⟩, (number.log2 : Int) - 52) := by
  have short := log2_le_of_lt positive small
  have target :
      Format.binary64.targetExponent
          (totalExponent (number * 2 ^ shift) (-shift)) =
        (number.log2 : Int) - 52 := by
    simp only [Format.targetExponent, totalExponent,
      log2_mul_two_pow positive, Format.mantissaBits, Format.minExponent]
    norm_num
    omega
  have amount :
      ((number.log2 : Int) - 52 - -shift).toNat =
        number.log2 + shift - 52 := by
    omega
  have split :
      number * 2 ^ shift =
        mantissaOf number * 2 ^ (number.log2 + shift - 52) := by
    rw [mantissaOf, Nat.mul_assoc, ← Nat.pow_add]
    congr 2
    omega
  simp only [shiftToTargetExponent, shiftToExponent, target, amount,
    ExtendedMantissa.ofMantissaAndAccuracy]
  rw [split, shiftRight_of_dvd]
  congr 1
  omega

/--
A natural number of 53 bits is rounded to itself: the first shift brings it to
its canonical exponent, and the second one finds it there.
-/
theorem roundWithAccuracy_of_exact
    {number : Nat}
    (positive : 0 < number)
    (small : number < 2 ^ 53)
    {shift : Nat}
    (enough : 52 ≤ number.log2 + shift) :
    roundWithAccuracy Format.binary64 .positive (number * 2 ^ shift) (-shift)
        .exact =
      exact number := by
  have first := shiftToTargetExponent_of_exact positive small enough
  have short := log2_le_of_lt positive small
  have second :
      shiftToTargetExponent Format.binary64 (mantissaOf number)
          ((number.log2 : Int) - 52) .exact =
        (⟨mantissaOf number, false, false⟩, (number.log2 : Int) - 52) := by
    have enough : 52 ≤ number.log2 + (52 - number.log2) := by omega
    have again := shiftToTargetExponent_of_exact positive small enough
    have exponent :
        (-((52 - number.log2 : Nat) : Int)) = (number.log2 : Int) - 52 := by
      omega
    rw [exponent] at again
    exact again
  have rounded :
      ExtendedMantissa.roundedMantissa ⟨mantissaOf number, false, false⟩ =
        mantissaOf number :=
    rfl
  simp only [roundWithAccuracy, first, rounded, second,
    Nat.ne_of_gt (mantissaOf_pos positive), dite_false, exact_of_pos positive]

/-- A small number is converted without rounding. -/
theorem ofNat_of_small
    {number : Nat}
    (small : number < 2 ^ 53) :
    UnpackedFloat.ofNat Format.binary64 number = exact number := by
  rcases Nat.eq_zero_or_pos number with rfl | positive
  · rfl
  have short := log2_le_of_lt positive small
  have compared : compare (number : Int) 0 = .gt :=
    compare_gt_iff_gt.mpr (by omega)
  have target :
      Format.binary64.targetExponent (totalExponent number 0) =
        (number.log2 : Int) - 52 := by
    simp only [Format.targetExponent, totalExponent, Format.mantissaBits,
      Format.minExponent]
    norm_num
    omega
  have amount :
      (-((number.log2 : Int) - 52)).toNat = 52 - number.log2 := by
    omega
  have enough : 52 ≤ number.log2 + (52 - number.log2) := by omega
  have rounded := roundWithAccuracy_of_exact positive small enough
  simp only [UnpackedFloat.ofNat, UnpackedFloat.ofInt,
    UnpackedFloat.normalize, compared, UnpackedFloat.round, target,
    decreaseExponent, Int.toNat_natCast, Nat.shiftLeft_eq, zero_sub, amount]
  exact rounded

/-- A product that stays small is exact. -/
theorem mul_of_small
    {first second : Nat}
    (firstSmall : first < 2 ^ 53)
    (secondSmall : second < 2 ^ 53)
    (small : first * second < 2 ^ 53) :
    UnpackedFloat.mul Format.binary64 (exact first) (exact second) =
      exact (first * second) := by
  rcases Nat.eq_zero_or_pos first with rfl | firstPositive
  · rw [Nat.zero_mul, exact_zero]
    by_cases secondPositive : 0 < second
    · rw [exact_of_pos secondPositive]
      rfl
    · rw [Nat.eq_zero_of_not_pos secondPositive, exact_zero]
      rfl
  rcases Nat.eq_zero_or_pos second with rfl | secondPositive
  · rw [Nat.mul_zero, exact_zero, exact_of_pos firstPositive]
    rfl
  have positive : 0 < first * second := Nat.mul_pos firstPositive secondPositive
  have firstShort := log2_le_of_lt firstPositive firstSmall
  have secondShort := log2_le_of_lt secondPositive secondSmall
  have longer : first.log2 + second.log2 ≤ (first * second).log2 := by
    rw [Nat.le_log2 (Nat.ne_of_gt positive), Nat.pow_add]
    exact Nat.mul_le_mul (Nat.log2_self_le (Nat.ne_of_gt firstPositive))
      (Nat.log2_self_le (Nat.ne_of_gt secondPositive))
  have mantissas :
      mantissaOf first * mantissaOf second =
        first * second * 2 ^ (104 - first.log2 - second.log2) := by
    have exponents :
        104 - first.log2 - second.log2 =
          (52 - first.log2) + (52 - second.log2) := by
      omega
    rw [exponents, Nat.pow_add, mantissaOf, mantissaOf]
    ring
  have exponent :
      ((first.log2 : Int) - 52) + ((second.log2 : Int) - 52) =
        -((104 - first.log2 - second.log2 : Nat) : Int) := by
    omega
  have enough :
      52 ≤ (first * second).log2 + (104 - first.log2 - second.log2) := by
    omega
  have rounded := roundWithAccuracy_of_exact positive small enough
  rw [← mantissas, ← exponent] at rounded
  rw [exact_of_pos firstPositive, exact_of_pos secondPositive]
  exact rounded

/-! ## Packing -/

/-- The first bit of a full mantissa is the one that is not stored. -/
theorem toNat_one_append
    {mantissa : Nat}
    (full : mantissa.log2 = 52) :
    (1#1 ++ BitVec.ofNat 52 mantissa).toNat = mantissa := by
  have positive : mantissa ≠ 0 := by
    rintro rfl
    simp at full
  have bounds := (Nat.log2_eq_iff positive).mp full
  have stored : mantissa % 2 ^ 52 < 2 ^ 52 := Nat.mod_lt _ (by decide)
  rw [BitVec.toNat_append, BitVec.toNat_ofNat, BitVec.toNat_ofNat,
    ← Nat.shiftLeft_add_eq_or_of_lt stored, Nat.shiftLeft_eq]
  omega

/-- The fields of a number: a full mantissa behind a biased exponent. -/
theorem pack_exact
    {number : Nat}
    (positive : 0 < number)
    (small : number < 2 ^ 53) :
    UnpackedFloat.pack Format.binary64 (exact number) =
      packComponents Format.binary64 .positive
        (BitVec.ofNat _ (number.log2 + 1023))
        (BitVec.ofNat _ (mantissaOf number)) := by
  have short := log2_le_of_lt positive small
  have biased :
      ((number.log2 : Int) - 52 + (Format.binary64.exponentBias : Int) +
          (Format.binary64.mantissaBitsWithoutImplicit : Int)).toNat =
        number.log2 + 1023 := by
    have bias : (Format.binary64.exponentBias : Int) = 1023 := by decide
    have stored :
        (Format.binary64.mantissaBitsWithoutImplicit : Int) = 52 := by
      decide
    rw [bias, stored]
    omega
  have normal :
      (mantissaOf number).log2 + 1 = Format.binary64.mantissaBits := by
    rw [log2_mantissaOf positive small]
    decide
  have inRange :
      ¬ 2 ^ Format.binary64.exponentBits ≤ number.log2 + 1023 + 1 := by
    have bits : 2 ^ Format.binary64.exponentBits = 2048 := by decide
    omega
  rw [exact_of_pos positive]
  simp only [UnpackedFloat.pack, biased, if_pos normal, if_neg inRange]

/-- An exponent between the two reserved ones is read as it was written. -/
theorem unpack_packComponents
    {mantissa biased : Nat}
    (full : mantissa.log2 = 52)
    (positive : 0 < mantissa)
    (normal : 0 < biased)
    (inRange : biased < 2047) :
    UnpackedFloat.unpack Format.binary64
        (packComponents Format.binary64 .positive
          (BitVec.ofNat _ biased) (BitVec.ofNat _ mantissa)) =
      .finite .positive mantissa ((biased : Int) - 1075) positive := by
  have value :
      (BitVec.ofNat Format.binary64.exponentBits biased).toNat = biased := by
    have bits : 2 ^ Format.binary64.exponentBits = 2048 := by decide
    rw [BitVec.toNat_ofNat, bits]
    omega
  have notInfinite :
      BitVec.ofNat Format.binary64.exponentBits biased ≠ -1#_ := by
    intro allOnes
    have ones :
        (-BitVec.ofNat Format.binary64.exponentBits 1).toNat = 2047 := by
      decide
    rw [allOnes, ones] at value
    omega
  have notSubnormal :
      BitVec.ofNat Format.binary64.exponentBits biased ≠ 0#_ := by
    intro none
    rw [none, BitVec.toNat_zero] at value
    omega
  have offset :
      (Format.binary64.exponentBias : Int) +
          (Format.binary64.mantissaBitsWithoutImplicit : Int) =
        1075 := by
    decide
  simp only [UnpackedFloat.unpack, unpackExponent_packComponents,
    unpackMantissa_packComponents, unpackSign_packComponents,
    Sign.ofBitVec_toBitVec, if_neg notInfinite, if_neg notSubnormal, value,
    offset]
  congr 1
  exact toNat_one_append full

/-- A small number is packed without loss. -/
theorem unpack_pack_exact
    {number : Nat}
    (small : number < 2 ^ 53) :
    UnpackedFloat.unpack Format.binary64
        (UnpackedFloat.pack Format.binary64 (exact number)) =
      exact number := by
  rcases Nat.eq_zero_or_pos number with rfl | positive
  · rfl
  have short := log2_le_of_lt positive small
  have exponent :
      ((number.log2 + 1023 : Nat) : Int) - 1075 = number.log2 - 52 := by
    omega
  rw [pack_exact positive small,
    unpack_packComponents (log2_mantissaOf positive small)
      (mantissaOf_pos positive) (by omega) (by omega),
    exponent, exact_of_pos positive]

/-! ## Values -/

/-- The value is a natural number. -/
def IsNat (value : Binary64) (number : Nat) : Prop :=
  value.unpacked = exact number

/-- A value is at most one number. -/
theorem IsNat.unique
    {value : Binary64}
    {first second : Nat}
    (isFirst : value.IsNat first)
    (isSecond : value.IsNat second) :
    first = second :=
  exact_injective (isFirst.symm.trans isSecond)

theorem isNat_ofUInt64
    {value : UInt64}
    (small : value.toNat < 2 ^ 53) :
    (ofUInt64 value).IsNat value.toNat := by
  have converted :
      (ofUInt64 value).unpacked =
        UnpackedFloat.unpack Format.binary64
          (UnpackedFloat.pack Format.binary64
            (UnpackedFloat.unpack Format.binary64
              (UnpackedFloat.pack Format.binary64
                (UnpackedFloat.ofNat Format.binary64 value.toNat)))) :=
    rfl
  rw [IsNat, converted, ofNat_of_small small, unpack_pack_exact small,
    unpack_pack_exact small]

theorem IsNat.mul
    {first second : Binary64}
    {firstNumber secondNumber : Nat}
    (isFirst : first.IsNat firstNumber)
    (isSecond : second.IsNat secondNumber)
    (firstSmall : firstNumber < 2 ^ 53)
    (secondSmall : secondNumber < 2 ^ 53)
    (small : firstNumber * secondNumber < 2 ^ 53) :
    (first * second).IsNat (firstNumber * secondNumber) := by
  have multiplied :
      (first * second).unpacked =
        UnpackedFloat.unpack Format.binary64
          (UnpackedFloat.pack Format.binary64
            (UnpackedFloat.unpack Format.binary64
              (UnpackedFloat.pack Format.binary64
                (UnpackedFloat.mul Format.binary64 first.unpacked
                  second.unpacked)))) :=
    rfl
  rw [IsNat] at isFirst isSecond
  rw [IsNat, multiplied, isFirst, isSecond,
    mul_of_small firstSmall secondSmall small, unpack_pack_exact small,
    unpack_pack_exact small]

/-- Adding to zero is exact. -/
theorem IsNat.zero_add
    {zero value : Binary64}
    {number : Nat}
    (isZero : zero.IsNat 0)
    (isNumber : value.IsNat number)
    (small : number < 2 ^ 53) :
    (zero + value).IsNat number := by
  have added :
      (zero + value).unpacked =
        UnpackedFloat.unpack Format.binary64
          (UnpackedFloat.pack Format.binary64
            (UnpackedFloat.unpack Format.binary64
              (UnpackedFloat.pack Format.binary64
                (UnpackedFloat.add Format.binary64 zero.unpacked
                  value.unpacked)))) :=
    rfl
  have sum :
      UnpackedFloat.add Format.binary64 (exact 0) (exact number) =
        exact number := by
    rcases Nat.eq_zero_or_pos number with rfl | positive
    · rfl
    · rw [exact_of_pos positive]
      rfl
  rw [IsNat] at isZero isNumber
  rw [IsNat, added, isZero, isNumber, sum, unpack_pack_exact small,
    unpack_pack_exact small]

/-! ## Order -/

theorem IsNat.isNaN
    {value : Binary64}
    {number : Nat}
    (isNumber : value.IsNat number) :
    value.isNaN = false := by
  rw [isNaN_eq_unpacked, isNumber, exact]
  split
  · rfl
  · rfl

theorem IsNat.isInf
    {value : Binary64}
    {number : Nat}
    (isNumber : value.IsNat number) :
    value.isInf = false := by
  have unpackedForm : value.isInf = value.unpacked.isInf := rfl
  rw [unpackedForm, isNumber, exact]
  split
  · rfl
  · rfl

/-- A number is not negative. -/
theorem IsNat.zero_le_rank
    {value : Binary64}
    {number : Nat}
    (isNumber : value.IsNat number) :
    toLex (0, toLex (0, 0)) ≤ value.rank := by
  rw [rank, isNumber, exact]
  split
  · exact Prod.Lex.toLex_le_toLex.mpr (Or.inl Int.zero_lt_one)
  · exact le_refl _

/-- A small number has no exponent above zero. -/
theorem IsNat.rank_lt
    {value : Binary64}
    {number : Nat}
    (isNumber : value.IsNat number)
    (small : number < 2 ^ 53) :
    value.rank < toLex (1, toLex (1, 0)) := by
  rw [rank, isNumber, exact]
  split
  next positive =>
    have short := log2_le_of_lt positive small
    refine Prod.Lex.toLex_lt_toLex.mpr (Or.inr ⟨rfl, ?_⟩)
    refine Prod.Lex.toLex_lt_toLex.mpr (Or.inl ?_)
    change (number.log2 : Int) - 52 < 1
    omega
  · exact Prod.Lex.toLex_lt_toLex.mpr (Or.inl Int.zero_lt_one)

end Binary64
