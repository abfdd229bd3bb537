import Mathlib.Data.List.Basic
import Mathlib.Data.UInt

/-!
# Checksums that absorb one item at a time

A running checksum starts from a fixed state and absorbs the items of a list in
order.  Where absorbing loses neither the state nor the item, replacing exactly
one item of a list always changes its checksum, wherever the item stands and
however long the list is.

The exclusive or with a byte and the product with an odd factor is such a step:
an odd factor has an inverse modulo `2 ^ 64`.
-/

namespace Checksum

variable {σ α : Type}

/-- Absorbing loses neither the state nor the item. -/
structure Injects (absorb : σ → α → σ) : Prop where
  state : ∀ item, Function.Injective fun state => absorb state item
  item : ∀ state, Function.Injective (absorb state)

namespace Injects

variable {absorb : σ → α → σ}

/-- Different states stay different while the same items are absorbed. -/
theorem foldl_injective
    (injects : Injects absorb)
    (items : List α) :
    Function.Injective fun state => items.foldl absorb state := by
  induction items with
  | nil =>
      intro first second same
      exact same
  | cons item rest inductionHypothesis =>
      intro first second same
      exact injects.state item (inductionHypothesis same)

/-- Replacing one item changes the checksum. -/
theorem foldl_set_ne
    (injects : Injects absorb)
    {items : List α}
    {index : Nat}
    {item replaced : α}
    (found : items[index]? = some replaced)
    (changed : item ≠ replaced)
    (start : σ) :
    (items.set index item).foldl absorb start ≠
      items.foldl absorb start := by
  induction items generalizing index start with
  | nil =>
      simp at found
  | cons first rest inductionHypothesis =>
      cases index with
      | zero =>
          obtain rfl : first = replaced := by simpa using found
          intro same
          exact changed
            (injects.item start (injects.foldl_injective rest same))
      | succ index =>
          exact inductionHypothesis (by simpa using found) (absorb start first)

end Injects

/-- Mix a byte into the hash and multiply. -/
def xorMultiply
    (factor hash : UInt64)
    (byte : UInt8) : UInt64 :=
  (hash ^^^ byte.toUInt64) * factor

/-- A factor with an inverse loses nothing. -/
theorem injects_xorMultiply
    {factor inverse : UInt64}
    (unit : factor * inverse = 1) :
    Injects (xorMultiply factor) := by
  have cancel :
      ∀ first second : UInt64,
        first * factor = second * factor → first = second := by
    intro first second same
    have scaled := congrArg (· * inverse) same
    simpa only [UInt64.mul_assoc, unit, UInt64.mul_one] using scaled
  constructor
  · intro byte first second same
    exact (UInt64.xor_left_inj byte.toUInt64).mp (cancel _ _ same)
  · intro hash first second same
    have sameWide : first.toUInt64 = second.toUInt64 :=
      (UInt64.xor_right_inj hash).mp (cancel _ _ same)
    exact UInt8.toUInt64_inj.mp sameWide

end Checksum
