import Mathlib.Data.UInt
import Mathlib.Data.List.Basic

/-!
# Integer operations that report when they leave their type

A signed operation of C++ has no result where the exact one does not fit, and
an unsigned one that wraps around to zero is no divisor.  Here such operations
return nothing.

A loop whose iterations are checked independently of what was accumulated
succeeds when all its checks do, and then it is the loop without checks.
-/

namespace CheckedArithmetic

/-- The difference, where 32 bits hold it. -/
def sub? (first second : Int32) : Option Int32 :=
  let difference := first.toInt - second.toInt
  if -2 ^ 31 ≤ difference ∧ difference < 2 ^ 31 then
    some (first - second)
  else
    none

/-- The absolute value, which the least integer has none of. -/
def abs? (value : Int32) : Option Int32 :=
  if value = Int32.minValue then none else some value.abs

/-- The next number as a divisor. -/
def successor? (value : UInt64) : Option UInt64 :=
  if value + 1 = 0 then none else some (value + 1)

/-- The distance of two numbers, where no step to it overflows. -/
def distance? (first second : Int32) : Option Int32 := do
  let difference ← sub? first second
  abs? difference

theorem distance?_eq_some
    {first second : Int32}
    (near : (first.toInt - second.toInt).natAbs < 2 ^ 31) :
    distance? first second = some (first - second).abs := by
  have fits :
      -2 ^ 31 ≤ first.toInt - second.toInt ∧
        first.toInt - second.toInt < 2 ^ 31 := by
    omega
  have notLeast : first - second ≠ Int32.minValue := by
    intro least
    have sameValue := congrArg Int32.toInt least
    rw [Int32.toInt_sub, Int32.toInt_minValue,
      Int.bmod_eq_of_le (by omega) (by omega)] at sameValue
    omega
  simp only [distance?, sub?, if_pos fits]
  exact if_neg notLeast

theorem distance?_eq_none
    {first second : Int32}
    (far : 2 ^ 31 ≤ (first.toInt - second.toInt).natAbs) :
    distance? first second = none := by
  by_cases fits :
      -2 ^ 31 ≤ first.toInt - second.toInt ∧
        first.toInt - second.toInt < 2 ^ 31
  · have least : first - second = Int32.minValue := by
      rw [← Int32.toInt_inj, Int32.toInt_sub, Int32.toInt_minValue,
        Int.bmod_eq_of_le (by omega) (by omega)]
      omega
    simp only [distance?, sub?, if_pos fits, least]
    rfl
  · simp only [distance?, sub?, if_neg fits]
    rfl

theorem successor?_eq_some
    {value : UInt64}
    (notLast : value.toNat + 1 < 2 ^ 64) :
    successor? value = some (value + 1) := by
  apply if_neg
  rw [← UInt64.toNat_inj, UInt64.toNat_add]
  simp only [UInt64.toNat_one, UInt64.toNat_zero]
  omega

theorem successor?_eq_none
    {value : UInt64}
    (last : value.toNat + 1 = 2 ^ 64) :
    successor? value = none := by
  apply if_pos
  rw [← UInt64.toNat_inj, UInt64.toNat_add, UInt64.toNat_one, last]
  rfl

variable {State Item : Type}

/-- A loop of which every check succeeds is the loop without the checks. -/
theorem foldlM_eq_some
    {step? : State → Item → Option State}
    {step : State → Item → State}
    {items : List Item}
    (succeeds :
      ∀ item ∈ items, ∀ state, step? state item = some (step state item))
    (start : State) :
    items.foldlM step? start = some (items.foldl step start) := by
  induction items generalizing start with
  | nil =>
      rfl
  | cons item rest inductionHypothesis =>
      rw [List.foldlM_cons, succeeds item (by simp) start]
      apply inductionHypothesis
      intro later member
      exact succeeds later (by simp [member])

/-- One check that fails whatever was accumulated ends the loop. -/
theorem foldlM_eq_none
    {step? : State → Item → Option State}
    {items : List Item}
    {item : Item}
    (member : item ∈ items)
    (fails : ∀ state, step? state item = none)
    (start : State) :
    items.foldlM step? start = none := by
  induction items generalizing start with
  | nil =>
      cases member
  | cons head rest inductionHypothesis =>
      rw [List.foldlM_cons]
      rcases List.mem_cons.mp member with rfl | later
      · rw [fails]
        rfl
      · cases step? start head with
        | none =>
            rfl
        | some next =>
            exact inductionHypothesis later next

end CheckedArithmetic
