import CommunicationPlanner.ProcessObservations

namespace CommunicationPlanner

open TransitionRun

/-!
# Plans that have ended

A plan is settled when it is in a terminal state or its request has been
cancelled.  By the lifecycle table such a plan never becomes executable again,
but `REVALIDATE` and `EXECUTION_HANDOFF` write their states without looking at
the state they overwrite, and a commit whose claims were granted only looks for
a cancellation.  `respectsSettled` says of an event that it takes none of these
ways; along events that respect settled plans, they stay settled.
-/

namespace Coordinator

/-- The plan has ended, or its request has been cancelled. -/
def settled (state : Coordinator) (planId : CommunicationPlanId) : Bool :=
  match state.ledger.plans[planId]? with
  | none => false
  | some record =>
      record.state.terminal ||
        record.plan.requestId ∈ state.ledger.cancelled

/--
The event does not revalidate or hand off a settled plan, does not complete a
granted commit of a plan that completed or failed in the meantime, and does not
draw the identity of a settled plan for a new one.
-/
def respectsSettled
    (config : Config)
    (state : Coordinator) : Event → Bool
  | .receive socket message =>
      match message.type with
      | .revalidate | .executionHandoff => !state.settled message.planId
      | .submitRequest =>
          (state.drawn? config (.receive socket message)).all fun planId =>
            !state.settled planId
      | _ => true
  | .finish socket =>
      match state.connections[socket]? with
      | some (.acquired commit none) =>
          match state.ledger.plans[commit.planId]? with
          | none => true
          | some record =>
              state.ledger.undoes record ||
                (record.state ≠ .completed && record.state ≠ .failed)
      | _ => true
  | _ => true

/-- The step moves the plan into `COMMITTED`, `AWAITING_EXECUTION` or `ACTIVE`. -/
def promotes (step : CoordinatorStep) (planId : CommunicationPlanId) : Bool :=
  step.after.planState? planId ≠ step.before.planState? planId &&
    (step.after.planState? planId).any PlanState.executable

theorem settled_eq_true_iff
    {state : Coordinator}
    {planId : CommunicationPlanId} :
    state.settled planId = true ↔
      ∃ record,
        state.ledger.plans[planId]? = some record ∧
        (record.state.terminal = true ∨
          record.plan.requestId ∈ state.ledger.cancelled) := by
  unfold settled
  split
  · rename_i missing
    simp [missing]
  · rename_i record found
    simp [found]

section

variable
  {config : Config}
  {before after : Coordinator}
  {event : Event}
  {actions : List Action}
  {planId : CommunicationPlanId}

/-- What an event that respects settled plans writes into one that is settled. -/
theorem terminal_of_writes
    {record : PlanRecord}
    {new : PlanState}
    (respected : before.respectsSettled config event = true)
    (found : before.ledger.plans[planId]? = some record)
    (ended :
      record.state.terminal = true ∨
        record.plan.requestId ∈ before.ledger.cancelled)
    (writes : Writes before planId record event new) :
    new.terminal = true := by
  have isSettled : before.settled planId = true :=
    settled_eq_true_iff.mpr ⟨record, found, ended⟩
  cases writes with
  | beginCommit socket message kind named committable open_ =>
      rcases ended with terminal | cancelled
      · rcases committable with ready | awaiting
        · rw [ready] at terminal
          cases terminal
        · rw [awaiting] at terminal
          cases terminal
      · exact (open_ cancelled).elim
  | commit socket commit busy named kept =>
      subst named
      simp only [respectsSettled, busy, found, kept, Bool.false_or,
        Bool.and_eq_true, decide_eq_true_eq] at respected
      simp only [Ledger.undoes, Bool.or_eq_false_iff,
        decide_eq_false_iff_not] at kept
      rcases ended with terminal | cancelled
      · cases state : record.state <;>
          simp_all [PlanState.terminal]
      · exact (kept.1 cancelled).elim
  | revalidate socket message kind named passed =>
      subst named
      simp [respectsSettled, kind, isSettled] at respected
  | failRevalidation socket message kind named failed =>
      subst named
      rcases kind with kind | kind <;>
        simp [respectsSettled, kind, isSettled] at respected
  | handoff socket message kind named passed =>
      subst named
      simp [respectsSettled, kind, isSettled] at respected
  | result socket message kind named active =>
      split <;> rfl
  | undo | refuse | cancel | supersede | supersedeOlder =>
      rfl

/-- A settled plan stays settled, and no step promotes it. -/
theorem settled_of_step?
    (respected : before.respectsSettled config event = true)
    (isSettled : before.settled planId = true)
    (stepped : step? config before event = some (after, actions)) :
    after.settled planId = true ∧
      promotes ⟨before, event, actions, after⟩ planId = false := by
  obtain ⟨record, found, ended⟩ := settled_eq_true_iff.mp isSettled
  have monotone := cancelled_subset_of_step? stepped
  have change : PlanStep config before planId event
      after.ledger.plans[planId]? := planStep_of_step? stepped
  generalize isChanged : after.ledger.plans[planId]? = changed at change
  cases change with
  | same =>
      refine ⟨settled_eq_true_iff.mpr ⟨record, ?_, ?_⟩, ?_⟩
      · rw [isChanged, found]
      · exact ended.imp_right fun cancelled => monotone cancelled
      · simp [promotes, planState?, isChanged]
  | written old new known writes =>
      rw [found] at known
      cases known
      have terminal := terminal_of_writes respected found ended writes
      refine ⟨settled_eq_true_iff.mpr ⟨_, isChanged, .inl terminal⟩, ?_⟩
      have notExecutable : new.executable = false := by
        cases new <;> first | rfl | cases terminal
      simp [promotes, planState?, isChanged, notExecutable]
  | entered socket message plan received kind produced open_ named drawn =>
      subst received
      simp [respectsSettled, kind, drawn, isSettled] at respected

/-- No `EXECUTE` frame leaves for a settled plan. -/
theorem not_executes_of_settled
    {step : CoordinatorStep}
    (keyed : Keyed step.before)
    (respected : step.before.respectsSettled config step.event = true)
    (isSettled : step.before.settled planId = true)
    (stepped :
      step? config step.before step.event =
        some (step.after, step.outputs)) :
    executes step planId = false := by
  by_contra sent
  obtain ⟨socket, message, record, received, kind, found, _, sameId⟩ :=
    handoff_of_executes step stepped (by simpa using sent)
  have named : message.planId = planId :=
    (keyed message.planId record found).symm.trans sameId
  rw [received] at respected
  simp [respectsSettled, kind, named, isSettled] at respected

end

/--
Once a plan is settled, steps that respect settled plans neither move it into
an executable state nor send an `EXECUTE` frame for it.
-/
theorem settled_plan_stays_out_of_execution
    {config : Config}
    {store : Option (List UInt8)}
    {past later : List CoordinatorStep}
    {middle final : Coordinator}
    {planId : CommunicationPlanId}
    (reached : ProcessRun config store past middle)
    (isSettled : middle.settled planId = true)
    (continued : Run (step? config) middle later final)
    (respected :
      ∀ step ∈ later,
        step.before.respectsSettled config step.event = true) :
    ∀ step ∈ later,
      promotes step planId = false ∧ executes step planId = false := by
  have keyed : Keyed middle := keyed_of_run reached
  intro step member
  have stepped := continued.step_of_mem member
  have invariant :
      Keyed step.before ∧ step.before.settled planId = true := by
    refine continued.invariant_before
      (fun state => Keyed state ∧ state.settled planId = true)
      ⟨keyed, isSettled⟩ ?_ member
    intro earlier inLater earlierStepped holds
    exact ⟨holds.1.step earlierStepped,
      (settled_of_step? (respected earlier inLater) holds.2
        earlierStepped).1⟩
  exact ⟨(settled_of_step? (respected step member) invariant.2 stepped).2,
    not_executes_of_settled invariant.1 (respected step member) invariant.2
      stepped⟩

/-- The deployment plans a request, and then the request is cancelled. -/
def cancelledScenario : List Event :=
  deployment ⟨4⟩ ⟨1⟩ ++
    receiveAll ⟨4⟩
      [ CoordinatorClient.submitRequest (directRequest ⟨5⟩),
        CoordinatorClient.cancel ⟨5⟩ ⟨1⟩ ]

/--
A late commit, a late result and a supersession leave a cancelled plan alone.
-/
theorem cancelled_plan_stays_out_of_execution :
    ∃ past middle later final,
      ProcessRun defaultConfig none past middle ∧
      middle.settled ⟨1⟩ = true ∧
      Run (step? defaultConfig) middle later final ∧
      later.length = 3 ∧
      ∀ step ∈ later,
        promotes step ⟨1⟩ = false ∧ executes step ⟨1⟩ = false := by
  have checked :
      ((replay? (step? defaultConfig) (start none) cancelledScenario).any
        fun reached =>
          reached.2.settled ⟨1⟩ &&
            (replay? (step? defaultConfig) reached.2
              (receiveAll ⟨4⟩
                [ CoordinatorClient.commitPlan ⟨1⟩,
                  CoordinatorClient.executionResult ⟨1⟩ true,
                  CoordinatorClient.supersede ⟨5⟩ ⟨1⟩ ])).any
              fun continued =>
                continued.1.length = 3 &&
                  continued.1.all fun step =>
                    step.before.respectsSettled defaultConfig step.event) = true := by
    decide +kernel
  obtain ⟨past, middle, reached, holds⟩ := exists_run_of_replay? checked
  rw [Bool.and_eq_true] at holds
  obtain ⟨later, final, continued, respected⟩ :=
    exists_run_of_replay? holds.2
  rw [Bool.and_eq_true, decide_eq_true_eq, List.all_eq_true] at respected
  exact ⟨past, middle, later, final, reached, holds.1, continued,
    respected.1,
    settled_plan_stays_out_of_execution reached holds.1 continued
      respected.2⟩

/-- A handoff after the cancellation makes the plan active and sends its frame. -/
theorem cancelled_plan_handed_off :
    ∃ past middle later final,
      ProcessRun defaultConfig none past middle ∧
      middle.settled ⟨1⟩ = true ∧
      Run (step? defaultConfig) middle later final ∧
      ∃ step ∈ later,
        promotes step ⟨1⟩ = true ∧ executes step ⟨1⟩ = true := by
  have checked :
      ((replay? (step? defaultConfig) (start none) cancelledScenario).any
        fun reached =>
          reached.2.settled ⟨1⟩ &&
            (replay? (step? defaultConfig) reached.2
              (receiveAll ⟨4⟩
                [CoordinatorClient.executionHandoff ⟨1⟩])).any
              fun continued =>
                continued.1.any fun step =>
                  promotes step ⟨1⟩ && executes step ⟨1⟩) = true := by
    decide +kernel
  obtain ⟨past, middle, reached, holds⟩ := exists_run_of_replay? checked
  rw [Bool.and_eq_true] at holds
  obtain ⟨later, final, continued, revived⟩ := exists_run_of_replay? holds.2
  obtain ⟨step, member, both⟩ := List.any_eq_true.mp revived
  rw [Bool.and_eq_true] at both
  exact ⟨past, middle, later, final, reached, holds.1, continued, step,
    member, both⟩

end Coordinator

end CommunicationPlanner
