import Mathlib.Control.Monad.Basic
import Mathlib.Data.List.Basic

/-!
# Computations that draw fresh values

A computation reads and advances the state of some allocators and may fail.
Three judgments are developed for it, each with one rule per way of building a
computation:

* `Ensures computation post`: whatever the allocators hold, a result that is
  returned satisfies `post`;
* `Succeeds computation`: whatever the allocators hold, a result is returned;
* `Agrees related first second`: whatever the allocators hold in either run,
  both computations fail alike or return related results.
-/

namespace Allocation

/-- A computation over allocators `σ` that may fail with `ε`. -/
abbrev Computation (σ ε α : Type) := StateT σ (Except ε) α

variable {σ ε α β : Type}

/-- Every returned value satisfies the postcondition. -/
def Ensures
    (computation : Computation σ ε α)
    (post : α → Prop) : Prop :=
  ∀ before value after,
    computation.run before = .ok (value, after) → post value

namespace Ensures

theorem pure
    {value : α}
    {post : α → Prop}
    (holds : post value) :
    Ensures (Pure.pure value : Computation σ ε α) post := by
  intro before returned after ran
  cases ran
  exact holds

/-- A failing computation returns nothing. -/
theorem throw
    {failure : ε}
    {post : α → Prop} :
    Ensures (MonadExcept.throw failure : Computation σ ε α) post := by
  intro before returned after ran
  cases ran

theorem bind
    {first : Computation σ ε α}
    {next : α → Computation σ ε β}
    {middle : α → Prop}
    {post : β → Prop}
    (ensuresFirst : Ensures first middle)
    (ensuresNext : ∀ value, middle value → Ensures (next value) post) :
    Ensures (first >>= next) post := by
  intro before result after ran
  rw [StateT.run_bind] at ran
  cases firstRan : first.run before with
  | error failure =>
      rw [firstRan] at ran
      cases ran
  | ok outcome =>
      rw [firstRan] at ran
      exact ensuresNext outcome.1
        (ensuresFirst before outcome.1 outcome.2 firstRan)
        outcome.2 result after ran

/-- Nothing is known about the value. -/
theorem trivial
    {computation : Computation σ ε α} :
    Ensures computation fun _ => True := by
  intro _ _ _ _
  exact True.intro

theorem weaken
    {computation : Computation σ ε α}
    {strong weak : α → Prop}
    (ensures : Ensures computation strong)
    (implies : ∀ value, strong value → weak value) :
    Ensures computation weak := by
  intro before value after ran
  exact implies value (ensures before value after ran)

/-- Two postconditions hold together. -/
theorem and
    {computation : Computation σ ε α}
    {first second : α → Prop}
    (ensuresFirst : Ensures computation first)
    (ensuresSecond : Ensures computation second) :
    Ensures computation fun value => first value ∧ second value := by
  intro before value after ran
  exact ⟨ensuresFirst before value after ran,
    ensuresSecond before value after ran⟩

/-- The loop rule: an invariant of the accumulator. -/
theorem foldlM
    {step : β → α → Computation σ ε β}
    {invariant : β → Prop}
    (items : List α)
    (preserved :
      ∀ accumulator, invariant accumulator →
        ∀ item ∈ items, Ensures (step accumulator item) invariant)
    {start : β}
    (initially : invariant start) :
    Ensures (items.foldlM step start) invariant := by
  induction items generalizing start with
  | nil =>
      exact Ensures.pure initially
  | cons item rest inductionHypothesis =>
      rw [List.foldlM_cons]
      refine Ensures.bind (preserved start initially item (by simp)) ?_
      intro accumulator holds
      refine inductionHypothesis ?_ holds
      intro accumulator holds later member
      exact preserved accumulator holds later (by simp [member])

/-- The loop rule for an invariant that also speaks of the items done so far. -/
theorem foldlM_done
    {step : β → α → Computation σ ε β}
    {invariant : List α → β → Prop}
    (items : List α)
    (preserved :
      ∀ done accumulator, invariant done accumulator →
        ∀ item, Ensures (step accumulator item) (invariant (done ++ [item])))
    {done : List α}
    {start : β}
    (initially : invariant done start) :
    Ensures (items.foldlM step start) (invariant (done ++ items)) := by
  induction items generalizing done start with
  | nil =>
      rw [List.append_nil]
      exact Ensures.pure initially
  | cons item rest inductionHypothesis =>
      rw [List.foldlM_cons]
      refine Ensures.bind (preserved done start initially item) ?_
      intro accumulator holds
      rw [← List.singleton_append, ← List.append_assoc]
      exact inductionHypothesis holds

end Ensures

/-- The computation never fails. -/
def Succeeds (computation : Computation σ ε α) : Prop :=
  ∀ before, ∃ value after, computation.run before = .ok (value, after)

namespace Succeeds

theorem pure
    {value : α} :
    Succeeds (Pure.pure value : Computation σ ε α) := by
  intro before
  exact ⟨value, before, rfl⟩

/-- Drawing from the allocators always succeeds. -/
theorem modifyGet
    {update : σ → α × σ} :
    Succeeds (MonadStateOf.modifyGet update : Computation σ ε α) := by
  intro before
  exact ⟨(update before).1, (update before).2, rfl⟩

theorem bind
    {first : Computation σ ε α}
    {next : α → Computation σ ε β}
    (succeeds : Succeeds first)
    (succeedsNext : ∀ value, Succeeds (next value)) :
    Succeeds (first >>= next) := by
  intro before
  obtain ⟨value, middle, ran⟩ := succeeds before
  obtain ⟨result, after, ranNext⟩ := succeedsNext value middle
  refine ⟨result, after, ?_⟩
  rw [StateT.run_bind, ran]
  exact ranNext

/-- The loop rule: every iteration succeeds, whatever was accumulated. -/
theorem foldlM
    {step : β → α → Computation σ ε β}
    (items : List α)
    (succeeds : ∀ accumulator, ∀ item ∈ items, Succeeds (step accumulator item))
    (start : β) :
    Succeeds (items.foldlM step start) := by
  induction items generalizing start with
  | nil =>
      exact Succeeds.pure
  | cons item rest inductionHypothesis =>
      rw [List.foldlM_cons]
      refine Succeeds.bind (succeeds start item (by simp)) ?_
      refine inductionHypothesis ?_
      intro accumulator later member
      exact succeeds accumulator later (by simp [member])

end Succeeds

/-- Both computations fail alike or return related values. -/
def Agrees
    (related : α → β → Prop)
    (first : Computation σ ε α)
    (second : Computation σ ε β) : Prop :=
  ∀ firstBefore secondBefore,
    match first.run firstBefore, second.run secondBefore with
    | .ok (firstValue, _), .ok (secondValue, _) =>
        related firstValue secondValue
    | .error firstFailure, .error secondFailure =>
        firstFailure = secondFailure
    | _, _ => False

namespace Agrees

variable {γ δ : Type}

theorem pure
    {related : α → β → Prop}
    {first : α}
    {second : β}
    (holds : related first second) :
    Agrees related (Pure.pure first : Computation σ ε α)
      (Pure.pure second) := by
  intro firstBefore secondBefore
  exact holds

theorem throw
    {related : α → β → Prop}
    {failure : ε} :
    Agrees related (MonadExcept.throw failure : Computation σ ε α)
      (MonadExcept.throw failure) := by
  intro firstBefore secondBefore
  rfl

theorem bind
    {relatedFirst : α → β → Prop}
    {related : γ → δ → Prop}
    {first : Computation σ ε α}
    {second : Computation σ ε β}
    {firstNext : α → Computation σ ε γ}
    {secondNext : β → Computation σ ε δ}
    (agrees : Agrees relatedFirst first second)
    (agreesNext :
      ∀ firstValue secondValue, relatedFirst firstValue secondValue →
        Agrees related (firstNext firstValue) (secondNext secondValue)) :
    Agrees related (first >>= firstNext) (second >>= secondNext) := by
  intro firstBefore secondBefore
  have start := agrees firstBefore secondBefore
  rw [StateT.run_bind, StateT.run_bind]
  cases firstRan : first.run firstBefore with
  | error firstFailure =>
      cases secondRan : second.run secondBefore with
      | error secondFailure =>
          rw [firstRan, secondRan] at start
          exact start
      | ok secondOutcome =>
          rw [firstRan, secondRan] at start
          exact start.elim
  | ok firstOutcome =>
      cases secondRan : second.run secondBefore with
      | error secondFailure =>
          rw [firstRan, secondRan] at start
          exact start.elim
      | ok secondOutcome =>
          rw [firstRan, secondRan] at start
          exact agreesNext firstOutcome.1 secondOutcome.1 start
            firstOutcome.2 secondOutcome.2

/-- The loop rule: a relation between the accumulators. -/
theorem foldlM
    {firstStep : β → α → Computation σ ε β}
    {secondStep : γ → α → Computation σ ε γ}
    {related : β → γ → Prop}
    (items : List α)
    (preserved :
      ∀ firstAccumulator secondAccumulator,
        related firstAccumulator secondAccumulator →
        ∀ item ∈ items,
          Agrees related (firstStep firstAccumulator item)
            (secondStep secondAccumulator item))
    {firstStart : β}
    {secondStart : γ}
    (initially : related firstStart secondStart) :
    Agrees related (items.foldlM firstStep firstStart)
      (items.foldlM secondStep secondStart) := by
  induction items generalizing firstStart secondStart with
  | nil =>
      exact Agrees.pure initially
  | cons item rest inductionHypothesis =>
      rw [List.foldlM_cons, List.foldlM_cons]
      refine Agrees.bind (preserved _ _ initially item (by simp)) ?_
      intro firstAccumulator secondAccumulator holds
      refine inductionHypothesis ?_ holds
      intro firstAccumulator secondAccumulator holds later member
      exact preserved _ _ holds later (by simp [member])

end Agrees

end Allocation
