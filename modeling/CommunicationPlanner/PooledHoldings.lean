import Mathlib.Algebra.BigOperators.Group.List.Basic
import Mathlib.Algebra.GroupWithZero.Nat

/-!
# Holdings of several owners in one total

A pool keeps one total for each key and does not know on whose behalf an amount
was added.  The entries here do: they are what has been added for each owner
and not been forgotten since.  Clearing a key forgets it for every owner, so a
clearing on behalf of one owner is faithful to the owners when it `Spares` the
others.
-/

namespace PooledHoldings

/-- An owner holds so much of a key. -/
structure Entry (Owner Key : Type) where
  owner : Owner
  key : Key
  amount : Nat

variable {Owner Key : Type} [DecidableEq Owner] [DecidableEq Key]

/-- What is held of a key, for whichever owner. -/
def total (entries : List (Entry Owner Key)) (key : Key) : Nat :=
  ((entries.filter fun entry => entry.key = key).map Entry.amount).sum

/-- What is held of a key for one owner. -/
def share
    (entries : List (Entry Owner Key))
    (owner : Owner)
    (key : Key) : Nat :=
  ((entries.filter fun entry =>
    entry.owner = owner ∧ entry.key = key).map Entry.amount).sum

/-- Forget the keys, for every owner. -/
def clear
    (entries : List (Entry Owner Key))
    (keys : List Key) : List (Entry Owner Key) :=
  entries.filter fun entry => entry.key ∉ keys

/-- Of the keys nothing is held for anybody else. -/
def Spares
    (entries : List (Entry Owner Key))
    (owner : Owner)
    (keys : List Key) : Prop :=
  ∀ entry ∈ entries, entry.key ∈ keys → entry.owner = owner

instance
    (entries : List (Entry Owner Key))
    (owner : Owner)
    (keys : List Key) : Decidable (Spares entries owner keys) :=
  inferInstanceAs (Decidable (∀ entry ∈ entries, _ → _))

variable
  {entries added : List (Entry Owner Key)}
  {entry : Entry Owner Key}
  {owner other : Owner}
  {key : Key}
  {keys : List Key}

omit [DecidableEq Owner] in
@[simp] theorem total_append :
    total (entries ++ added) key = total entries key + total added key := by
  simp [total]

omit [DecidableEq Owner] in
@[simp] theorem mem_clear :
    entry ∈ clear entries keys ↔ entry ∈ entries ∧ entry.key ∉ keys := by
  simp [clear]

omit [DecidableEq Owner] in
@[simp] theorem total_clear :
    total (clear entries keys) key =
      if key ∈ keys then 0 else total entries key := by
  unfold total clear
  rw [List.filter_filter]
  split_ifs with isCleared
  · have nothing :
        (entries.filter fun entry =>
          decide (entry.key = key) && decide (entry.key ∉ keys)) = [] := by
      refine List.filter_eq_nil_iff.mpr ?_
      intro entry _ selected
      simp only [Bool.and_eq_true, decide_eq_true_eq] at selected
      exact selected.2 (selected.1 ▸ isCleared)
    rw [nothing]
    rfl
  · congr 2
    refine List.filter_congr ?_
    intro entry _
    by_cases same : entry.key = key
    · simp [same, isCleared]
    · simp [same]

/-- Of a key that only one owner holds, the total is that owner's. -/
theorem Spares.total_eq_share
    (spares : Spares entries owner keys)
    (isKey : key ∈ keys) :
    total entries key = share entries owner key := by
  unfold total share
  congr 2
  refine List.filter_congr ?_
  intro entry member
  by_cases same : entry.key = key
  · have owned := spares entry member (same ▸ isKey)
    simp [same, owned]
  · simp [same]

omit [DecidableEq Owner] in
/-- A clearing that spares the others keeps their entries. -/
theorem Spares.kept
    (spares : Spares entries owner keys)
    (member : entry ∈ entries)
    (other : entry.owner ≠ owner) :
    entry ∈ clear entries keys := by
  rw [mem_clear]
  exact ⟨member, fun isKey => other (spares entry member isKey)⟩

theorem Spares.share_clear
    (spares : Spares entries owner keys)
    (distinct : other ≠ owner)
    (key : Key) :
    share (clear entries keys) other key = share entries other key := by
  unfold share clear
  rw [List.filter_filter]
  congr 2
  refine List.filter_congr ?_
  intro entry member
  by_cases held : entry.owner = other ∧ entry.key = key
  · have kept : entry.key ∉ keys := fun isKey =>
      distinct (held.1.symm.trans (spares entry member isKey))
    simp [held.1, ← held.2, kept]
  · simp only [held, decide_false, Bool.false_and]

end PooledHoldings
