import Mathlib.Data.List.Basic
import Mathlib.Data.List.Induction

/-!
# Runs of a deterministic machine

A machine is a partial step function: from a state an event is refused, or it
leads to one state and produces a list of outputs.  A `Run` records every step
with the state before it and the state after it, so that a property of a whole
run is a property of the steps in its trace.

Three rules carry proofs over runs: `Run.invariant` for a property of the
states, `Run.invariant_trace` for a property that relates a state to the trace
that led to it, and `Run.invariant_past` when what a step does depends on the
trace before it.  `replay?` executes a list of events.
-/

namespace TransitionRun

variable {State Event Output : Type}

/-- One step of a run. -/
structure Step (State Event Output : Type) where
  before : State
  event : Event
  outputs : List Output
  after : State

/-- The steps from an initial state to a final one, in order of execution. -/
inductive Run
    (step? : State → Event → Option (State × List Output))
    (initial : State) :
    List (Step State Event Output) → State → Prop where
  | nil :
      Run step? initial [] initial
  | snoc
      {before after : State}
      {trace : List (Step State Event Output)}
      {event : Event}
      {outputs : List Output}
      (earlier : Run step? initial trace before)
      (last : step? before event = some (after, outputs)) :
      Run step? initial (trace ++ [⟨before, event, outputs, after⟩]) after

namespace Run

variable {step? : State → Event → Option (State × List Output)}
variable {initial middle final : State}
variable {trace leading trailing : List (Step State Event Output)}

/-- Concatenate two runs whose boundary states agree. -/
theorem append
    (first : Run step? initial leading middle)
    (later : Run step? middle trailing final) :
    Run step? initial (leading ++ trailing) final := by
  induction later with
  | nil =>
      simpa using first
  | snoc earlier last inductionHypothesis =>
      rw [← List.append_assoc]
      exact inductionHypothesis.snoc last

/-- Every step of a run is a step of the machine. -/
theorem step_of_mem
    (run : Run step? initial trace final)
    {step : Step State Event Output}
    (member : step ∈ trace) :
    step? step.before step.event = some (step.after, step.outputs) := by
  induction run with
  | nil =>
      cases member
  | snoc earlier last inductionHypothesis =>
      rcases List.mem_append.mp member with inEarlier | isLast
      · exact inductionHypothesis inEarlier
      · rw [List.mem_singleton.mp isLast]
        exact last

/-- A run can be cut before any of its steps. -/
theorem cut
    {step : Step State Event Output}
    (run : Run step? initial (leading ++ step :: trailing) final) :
    Run step? initial leading step.before ∧
    step? step.before step.event = some (step.after, step.outputs) ∧
    Run step? step.after trailing final := by
  generalize whole : leading ++ step :: trailing = trace at run
  induction run generalizing trailing with
  | nil =>
      simp at whole
  | snoc earlier last inductionHypothesis =>
      rcases List.eq_nil_or_concat trailing with rfl | ⟨rest, final, rfl⟩
      · obtain ⟨rfl, same⟩ := List.append_inj' whole rfl
        cases same
        exact ⟨earlier, last, .nil⟩
      · rw [List.concat_eq_append, ← List.cons_append,
          ← List.append_assoc] at whole
        obtain ⟨sameTrace, same⟩ := List.append_inj' whole rfl
        obtain ⟨before, stepped, rest⟩ := inductionHypothesis sameTrace
        cases same
        rw [List.concat_eq_append]
        exact ⟨before, stepped, rest.snoc last⟩

/--
A run of a machine that translates its events is a run of the machine behind.
-/
theorem translate
    {Source : Type}
    (function : Source → Event)
    {steps : List (Step State Source Output)}
    (run :
      Run (fun state event => step? state (function event)) initial steps
        final) :
    Run step? initial
      (steps.map fun step =>
        ⟨step.before, function step.event, step.outputs, step.after⟩)
      final := by
  induction run with
  | nil =>
      exact .nil
  | snoc earlier last inductionHypothesis =>
      rw [List.map_append, List.map_singleton]
      exact inductionHypothesis.snoc last

/--
What relates a state to the trace so far and survives each step holds of every
run.
-/
theorem invariant_trace
    (run : Run step? initial trace final)
    (property : List (Step State Event Output) → State → Prop)
    (starts : property [] initial)
    (steps :
      ∀ earlier before event after outputs,
        Run step? initial earlier before →
        ⟨before, event, outputs, after⟩ ∈ trace →
        property earlier before →
        step? before event = some (after, outputs) →
        property (earlier ++ [⟨before, event, outputs, after⟩]) after) :
    property trace final := by
  induction run with
  | nil =>
      exact starts
  | snoc earlier last inductionHypothesis =>
      refine steps _ _ _ _ _ earlier (by simp) ?_ last
      refine inductionHypothesis ?_
      intro prefixTrace before event after outputs prefixRun member
      exact steps prefixTrace before event after outputs prefixRun
        (List.mem_append_left _ member)

/--
What relates a state to the trace so far holds of every run, if it survives each
step that has its own past behind it.
-/
theorem invariant_past
    (run : Run step? initial trace final)
    (property : List (Step State Event Output) → State → Prop)
    (starts : property [] initial)
    (steps :
      ∀ past before event after outputs later,
        trace = past ++ ⟨before, event, outputs, after⟩ :: later →
        property past before →
        step? before event = some (after, outputs) →
        property (past ++ [⟨before, event, outputs, after⟩]) after) :
    property trace final := by
  induction run with
  | nil =>
      exact starts
  | @snoc reached final earlierTrace lastEvent lastOutputs earlier last
      inductionHypothesis =>
      refine steps _ _ _ _ _ [] rfl ?_ last
      refine inductionHypothesis ?_
      intro past before event after outputs later whole
      refine steps past before event after outputs
        (later ++ [⟨reached, lastEvent, lastOutputs, final⟩]) ?_
      rw [whole, List.append_assoc, List.cons_append]

/-- What survives each step holds of every state a run reaches. -/
theorem invariant
    (run : Run step? initial trace final)
    (property : State → Prop)
    (starts : property initial)
    (steps :
      ∀ step ∈ trace,
        step? step.before step.event = some (step.after, step.outputs) →
        property step.before →
        property step.after) :
    property final := by
  induction run with
  | nil =>
      exact starts
  | snoc earlier last inductionHypothesis =>
      refine steps ⟨_, _, _, _⟩
        (List.mem_append_right _ (List.mem_singleton.mpr rfl)) last ?_
      refine inductionHypothesis ?_
      intro step member
      exact steps step (List.mem_append_left _ member)

/-- An invariant holds before every step of a run. -/
theorem invariant_before
    (run : Run step? initial trace final)
    (property : State → Prop)
    (starts : property initial)
    (steps :
      ∀ step ∈ trace,
        step? step.before step.event = some (step.after, step.outputs) →
        property step.before →
        property step.after)
    {step : Step State Event Output}
    (member : step ∈ trace) :
    property step.before := by
  obtain ⟨leading, trailing, rfl⟩ := List.append_of_mem member
  obtain ⟨leadingRun, _, _⟩ := run.cut
  refine leadingRun.invariant property starts ?_
  intro earlier inLeading
  exact steps earlier (List.mem_append_left _ inLeading)

/--
What is observed at the end of a run was there from the start and stayed, or
some step brought it about and it stayed since.
-/
theorem last_change
    {Value : Type}
    (run : Run step? initial trace final)
    (observe : State → Value)
    {wanted : Value}
    (reached : observe final = wanted) :
    (observe initial = wanted ∧
      ∀ step ∈ trace, observe step.after = wanted) ∨
    ∃ earlier step later,
      trace = earlier ++ step :: later ∧
      observe step.before ≠ wanted ∧
      observe step.after = wanted ∧
      ∀ kept ∈ later, observe kept.after = wanted := by
  induction run with
  | nil =>
      exact .inl ⟨reached, by simp⟩
  | @snoc before after trace event outputs earlier last
      inductionHypothesis =>
      by_cases stood : observe before = wanted
      · rcases inductionHypothesis stood with
          ⟨started, kept⟩ | ⟨past, step, later, rfl, was, is, kept⟩
        · refine .inl ⟨started, ?_⟩
          intro step member
          rcases List.mem_append.mp member with inEarlier | isLast
          · exact kept step inEarlier
          · rw [List.mem_singleton.mp isLast]
            exact reached
        · refine .inr ⟨past, step, later ++ [⟨before, event, outputs, after⟩],
            by simp, was, is, ?_⟩
          intro step member
          rcases List.mem_append.mp member with inLater | isLast
          · exact kept step inLater
          · rw [List.mem_singleton.mp isLast]
            exact reached
      · exact .inr ⟨trace, ⟨before, event, outputs, after⟩, [], rfl, stood,
          reached, by simp⟩

/--
A rank that no step raises and that the steps of a kind lower bounds the number
of these steps.
-/
theorem countP_add_rank_le
    (run : Run step? initial trace final)
    (rank : State → Nat)
    (counted : Step State Event Output → Bool)
    (falls :
      ∀ step ∈ trace,
        rank step.after + (if counted step then 1 else 0) ≤
          rank step.before) :
    trace.countP counted + rank final ≤ rank initial := by
  induction run with
  | nil =>
      simp
  | @snoc before after trace event outputs earlier last
      inductionHypothesis =>
      have soFar := inductionHypothesis fun step member =>
        falls step (List.mem_append_left _ member)
      have lastFalls := falls ⟨before, event, outputs, after⟩ (by simp)
      rw [List.countP_append, List.countP_singleton]
      simp only at lastFalls
      omega

end Run

/-! ## What is observed in a trace -/

section

variable {α : Type} {observed undone : α → Bool} {trace : List α} {step : α}

/-- It happens at no step. -/
def NeverIn (observed : α → Bool) (trace : List α) : Prop :=
  ∀ step ∈ trace, observed step = false

/-- It does not happen at two steps. -/
def AtMostOnceIn (observed : α → Bool) (trace : List α) : Prop :=
  trace.Pairwise fun earlier later =>
    ¬(observed earlier = true ∧ observed later = true)

theorem NeverIn.snoc
    (never : NeverIn observed trace)
    (unobserved : observed step = false) :
    NeverIn observed (trace ++ [step]) := by
  intro member isMember
  rcases List.mem_append.mp isMember with earlier | last
  · exact never member earlier
  · rw [List.mem_singleton.mp last]
    exact unobserved

theorem NeverIn.atMostOnceIn
    (never : NeverIn observed trace) :
    AtMostOnceIn observed trace := by
  refine List.pairwise_of_forall_mem_list ?_
  rintro earlier member later _ ⟨isObserved, _⟩
  rw [never earlier member] at isObserved
  cases isObserved

/-- A first observation. -/
theorem NeverIn.atMostOnceIn_snoc
    (never : NeverIn observed trace)
    (step : α) :
    AtMostOnceIn observed (trace ++ [step]) := by
  refine List.pairwise_append.mpr
    ⟨never.atMostOnceIn, List.pairwise_singleton _ _, ?_⟩
  rintro earlier member later _ ⟨isObserved, _⟩
  rw [never earlier member] at isObserved
  cases isObserved

theorem AtMostOnceIn.snoc
    (once : AtMostOnceIn observed trace)
    (unobserved : observed step = false) :
    AtMostOnceIn observed (trace ++ [step]) := by
  refine List.pairwise_append.mpr ⟨once, List.pairwise_singleton _ _, ?_⟩
  rintro earlier _ later isLast ⟨_, isObserved⟩
  rw [List.mem_singleton.mp isLast, unobserved] at isObserved
  cases isObserved

/-- Something was observed, and no step since then undoes it. -/
def StandsIn (observed undone : α → Bool) (trace : List α) : Prop :=
  ∃ leading step trailing,
    trace = leading ++ step :: trailing ∧
    observed step = true ∧
    NeverIn undone trailing

theorem not_standsIn_nil :
    ¬StandsIn observed undone ([] : List α) := by
  rintro ⟨leading, step, trailing, whole, _⟩
  simp at whole

theorem StandsIn.exists_observed
    (stands : StandsIn observed undone trace) :
    ∃ step ∈ trace, observed step = true := by
  obtain ⟨leading, step, trailing, rfl, isObserved, _⟩ := stands
  exact ⟨step, by simp, isObserved⟩

/-- What stands after a step was observed by it, or stood and is not undone. -/
theorem standsIn_snoc :
    StandsIn observed undone (trace ++ [step]) ↔
      observed step = true ∨
      (StandsIn observed undone trace ∧ undone step = false) := by
  constructor
  · rintro ⟨leading, first, trailing, whole, isObserved, never⟩
    rcases List.eq_nil_or_concat trailing with rfl | ⟨rest, last, rfl⟩
    · obtain ⟨_, same⟩ := List.append_inj' whole rfl
      cases same
      exact .inl isObserved
    · rw [List.concat_eq_append] at whole never
      rw [← List.cons_append, ← List.append_assoc] at whole
      obtain ⟨rfl, same⟩ := List.append_inj' whole rfl
      cases same
      refine .inr ⟨⟨leading, first, rest, rfl, isObserved, ?_⟩, ?_⟩
      · intro later member
        exact never later (List.mem_append_left _ member)
      · exact never step (by simp)
  · rintro (isObserved | ⟨⟨leading, first, trailing, rfl, isObserved, never⟩,
      kept⟩)
    · exact ⟨trace, step, [], rfl, isObserved, by simp [NeverIn]⟩
    · exact ⟨leading, first, trailing ++ [step], by simp, isObserved,
        never.snoc kept⟩

/-- Whether something stands, computed along the trace. -/
def stands (observed undone : α → Bool) (trace : List α) : Bool :=
  trace.foldl (fun stood step => observed step || stood && !undone step) false

theorem stands_iff :
    stands observed undone trace = true ↔ StandsIn observed undone trace := by
  induction trace using List.reverseRecOn with
  | nil =>
      simp [stands, not_standsIn_nil]
  | append_singleton earlier step inductionHypothesis =>
      rw [standsIn_snoc, ← inductionHypothesis]
      simp [stands]

@[simp] theorem stands_snoc :
    stands observed undone (trace ++ [step]) =
      (observed step || stands observed undone trace && !undone step) := by
  simp [stands]

instance : Decidable (StandsIn observed undone trace) :=
  decidable_of_iff _ stands_iff

/-- The most recent observation. -/
def latest? {β : Type} (observe : α → Option β) (trace : List α) : Option β :=
  trace.reverse.findSome? observe

@[simp] theorem latest?_snoc
    {β : Type}
    (observe : α → Option β) :
    latest? observe (trace ++ [step]) =
      (observe step).or (latest? observe trace) := by
  simp only [latest?, List.reverse_append, List.reverse_singleton,
    List.singleton_append, List.findSome?_cons]
  cases observe step <;> rfl

/-- The most recent observation was made at some step. -/
theorem exists_of_latest
    {β : Type}
    {observe : α → Option β}
    {value : β}
    (isLatest : latest? observe trace = some value) :
    ∃ step ∈ trace, observe step = some value := by
  obtain ⟨step, member, observed⟩ := List.exists_of_findSome?_eq_some isLatest
  exact ⟨step, List.mem_reverse.mp member, observed⟩

end

/-! ## Conditions on every step and its past -/

section

variable {α : Type}

/-- Every element of the trace passes a check that sees what came before it. -/
def Throughout (check : List α → α → Bool) (trace : List α) : Prop :=
  ∀ past step later,
    trace = past ++ step :: later →
    check past step = true

/-- The check of a trace that has a past already. -/
def passesFrom (check : List α → α → Bool) : List α → List α → Bool
  | _, [] => true
  | past, step :: rest =>
      check past step && passesFrom check (past ++ [step]) rest

theorem check_of_passesFrom
    {check : List α → α → Bool}
    {earlier past later : List α}
    {step : α}
    (passed : passesFrom check earlier (past ++ step :: later) = true) :
    check (earlier ++ past) step = true := by
  induction past generalizing earlier with
  | nil =>
      simp only [List.nil_append, passesFrom, Bool.and_eq_true] at passed
      rw [List.append_nil]
      exact passed.1
  | cons first rest inductionHypothesis =>
      simp only [List.cons_append, passesFrom, Bool.and_eq_true] at passed
      have later := inductionHypothesis passed.2
      rw [List.append_assoc, List.singleton_append] at later
      exact later

theorem throughout_of_passesFrom
    {check : List α → α → Bool}
    {trace : List α}
    (passed : passesFrom check [] trace = true) :
    Throughout check trace := by
  intro past step later whole
  rw [whole] at passed
  simpa using check_of_passesFrom passed

end

/-! ## Execution -/

/-- Execute a list of events; no result if one of them is refused. -/
def replay?
    (step? : State → Event → Option (State × List Output))
    (state : State) :
    List Event → Option (List (Step State Event Output) × State)
  | [] => some ([], state)
  | event :: rest =>
      match step? state event with
      | none => none
      | some (after, outputs) =>
          match replay? step? after rest with
          | none => none
          | some (trace, final) =>
              some (⟨state, event, outputs, after⟩ :: trace, final)

/-- Whatever is executed is a run. -/
theorem run_of_replay?
    {step? : State → Event → Option (State × List Output)}
    {initial final : State}
    {events : List Event}
    {trace : List (Step State Event Output)}
    (replayed : replay? step? initial events = some (trace, final)) :
    Run step? initial trace final := by
  induction events generalizing initial trace with
  | nil =>
      cases replayed
      exact .nil
  | cons event rest inductionHypothesis =>
      unfold replay? at replayed
      split at replayed
      · cases replayed
      · rename_i after outputs stepped
        split at replayed
        · cases replayed
        · rename_i restTrace restFinal restReplayed
          cases replayed
          have first := Run.nil.snoc stepped
          exact first.append (inductionHypothesis restReplayed)

/-- What is executed is the list of events. -/
theorem map_event_of_replay?
    {step? : State → Event → Option (State × List Output)}
    {initial final : State}
    {events : List Event}
    {trace : List (Step State Event Output)}
    (replayed : replay? step? initial events = some (trace, final)) :
    trace.map (fun step => step.event) = events := by
  induction events generalizing initial trace with
  | nil =>
      cases replayed
      rfl
  | cons event rest inductionHypothesis =>
      unfold replay? at replayed
      split at replayed
      · cases replayed
      · split at replayed
        · cases replayed
        · rename_i restTrace restFinal restReplayed
          cases replayed
          rw [List.map_cons, inductionHypothesis restReplayed]

/-- A check of what is executed is a fact about some run. -/
theorem exists_run_of_replay?
    {step? : State → Event → Option (State × List Output)}
    {initial : State}
    {events : List Event}
    {check : List (Step State Event Output) × State → Bool}
    (checked : (replay? step? initial events).any check = true) :
    ∃ trace final,
      Run step? initial trace final ∧ check (trace, final) = true := by
  obtain ⟨⟨trace, final⟩, replayed, holds⟩ :=
    (Option.any_eq_true _ _).mp checked
  exact ⟨trace, final, run_of_replay? replayed, holds⟩

/-- Whether the elements of a list pass a list of checks, one for one. -/
def passesInOrder {α : Type} : List (α → Bool) → List α → Bool
  | [], [] => true
  | check :: checks, element :: rest =>
      check element && passesInOrder checks rest
  | _, _ => false

@[simp] theorem passesInOrder_nil
    {α : Type}
    {elements : List α} :
    passesInOrder [] elements = true ↔ elements = [] := by
  cases elements <;> simp [passesInOrder]

@[simp] theorem passesInOrder_cons
    {α : Type}
    {check : α → Bool}
    {checks : List (α → Bool)}
    {elements : List α} :
    passesInOrder (check :: checks) elements = true ↔
      ∃ element rest,
        elements = element :: rest ∧
          check element = true ∧
          passesInOrder checks rest = true := by
  cases elements <;> simp [passesInOrder]

end TransitionRun
