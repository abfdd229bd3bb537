import CommunicationPlanner.PlannerTotality
import CommunicationPlanner.StagedPlans
import CommunicationPlanner.StoreRecovery

namespace CommunicationPlanner

open OrderedCollections Allocation

/-!
# Stores of planned plans

The planner and the validator of stores were written apart.  Whatever plan the
planner succeeds with, the validator accepts a store that holds this plan, if
the cost is finite and the state asks for no claim.  The identities of the
paths decide this: they are counted from one, so they are distinct as long as
no builder makes more than `2 ^ 64` paths.
-/

/-! ## How many paths a builder makes -/

section

variable
  {request : CommunicationRequest}
  {snapshot : EvidenceSnapshot}
  {weights : RankingWeights}
  {bounds : Bounds}

/-- The paths of the outcome's plan can be counted in 64 bits. -/
def PlanOutcome.Countable (outcome : PlanOutcome) : Prop :=
  ∀ plan, outcome.plan = some plan →
    plan.candidatePaths.length ≤ 2 ^ 64

theorem PlanOutcome.countable_of_plan
    {outcome : PlanOutcome}
    {plan : CommunicationPlan}
    (found : outcome.plan = some plan)
    (countable : plan.candidatePaths.length ≤ 2 ^ 64) :
    outcome.Countable := by
  intro other otherFound
  rw [found] at otherFound
  cases otherFound
  exact countable

/-- A destination adds one path at most. -/
theorem ensures_multicastStep_length
    (state : MulticastState)
    (destination : EndpointId) :
    Ensures (multicastStep request snapshot weights bounds state destination)
      fun next =>
        next.candidatePaths.length ≤ state.candidatePaths.length + 1 := by
  unfold multicastStep
  simp only
  split
  · exact Ensures.pure (Nat.le_succ _)
  · refine Ensures.bind Ensures.trivial ?_
    intro path _
    exact Ensures.pure (by simp)

theorem ensures_foldlM_multicastStep_length
    (destinations : List EndpointId)
    (state : MulticastState) :
    Ensures
      (destinations.foldlM (multicastStep request snapshot weights bounds)
        state)
      fun final =>
        final.candidatePaths.length ≤
          state.candidatePaths.length + destinations.length := by
  induction destinations generalizing state with
  | nil =>
      exact Ensures.pure (Nat.le_refl _)
  | cons destination rest inductionHypothesis =>
      rw [List.foldlM_cons]
      refine Ensures.bind (ensures_multicastStep_length state destination) ?_
      intro next stepped
      refine Ensures.weaken (inductionHypothesis next) ?_
      intro final counted
      rw [List.length_cons]
      omega

theorem ensures_buildMulticastPlan_countable
    (few : request.destinations.length ≤ 2 ^ 16) :
    Ensures (buildMulticastPlan request snapshot weights bounds)
      PlanOutcome.Countable := by
  unfold buildMulticastPlan
  refine Ensures.bind Ensures.trivial ?_
  intro id _
  refine Ensures.bind Ensures.trivial ?_
  intro generation _
  refine Ensures.bind (ensures_foldlM_multicastStep_length _ _) ?_
  intro final counted
  refine Ensures.pure (PlanOutcome.countable_of_plan rfl ?_)
  change final.candidatePaths.length ≤ 0 + request.destinations.length
    at counted
  change final.candidatePaths.length ≤ 2 ^ 64
  omega

/-- A member adds one path at most. -/
theorem ensures_collectiveLoop_length
    (root : EndpointId)
    (members : List EndpointId)
    (state : CollectiveState) :
    Ensures
      (collectiveLoop request snapshot weights bounds root members state)
      fun result =>
        result.1.candidatePaths.length ≤
          state.candidatePaths.length + members.length := by
  induction members generalizing state with
  | nil =>
      exact Ensures.pure (Nat.le_refl _)
  | cons member rest inductionHypothesis =>
      rw [List.length_cons]
      unfold collectiveLoop
      split
      · refine Ensures.weaken (inductionHypothesis state) ?_
        intro result counted
        omega
      simp only
      split
      · exact Ensures.pure (Nat.le_add_right _ _)
      · refine Ensures.bind Ensures.trivial ?_
        intro path _
        refine Ensures.weaken (inductionHypothesis _) ?_
        intro result counted
        rw [List.length_append, List.length_singleton] at counted
        omega

/-- The participants of an admitted collective are counted in 32 bits. -/
theorem participants_of_admitted
    (admitted : participantRejection request snapshot bounds = none) :
    request.participants.length < 2 ^ 32 := by
  unfold participantRejection at admitted
  split_ifs at admitted with miscounted
  rw [not_not] at miscounted
  rw [← miscounted]
  exact request.collectiveCount.toNat_lt

theorem ensures_buildCollectivePlan_countable :
    Ensures (buildCollectivePlan request snapshot weights bounds)
      PlanOutcome.Countable := by
  unfold buildCollectivePlan
  refine Ensures.bind Ensures.trivial ?_
  intro id _
  refine Ensures.bind Ensures.trivial ?_
  intro generation _
  simp only
  split
  · exact Ensures.pure (PlanOutcome.countable_of_plan rfl (Nat.zero_le _))
  · exact Ensures.throw
  · rename_i root others admitted participants
    have few := participants_of_admitted admitted
    refine Ensures.bind (ensures_collectiveLoop_length root _ _) ?_
    rintro ⟨final, unreached⟩ counted
    have countable : final.candidatePaths.length ≤ 2 ^ 64 := by
      change final.candidatePaths.length ≤
        0 + request.participants.length at counted
      omega
    cases unreached with
    | some member =>
        exact Ensures.pure (PlanOutcome.countable_of_plan rfl countable)
    | none =>
        exact Ensures.pure (PlanOutcome.countable_of_plan rfl countable)

/-- The primary path and the fallbacks are all that is retained. -/
theorem length_retained_le
    (assessment : Assessment)
    (total : Nat) :
    (assessment.retained total).length ≤ total := by
  unfold Assessment.retained
  exact (List.length_filterMap_le _ _).trans (List.length_take_le _ _)

theorem ensures_planPointToPoint_countable :
    Ensures (planPointToPoint request snapshot weights bounds)
      PlanOutcome.Countable := by
  refine ensures_pointToPoint_assembled (ensures_makePaths _ _ _) ?_
  rintro destination id generation total rejected paths few ⟨_, built⟩
  have limit := bounds.maxFallbacks.toNat_lt
  have retained :=
    length_retained_le
      (assess request snapshot weights bounds request.source destination)
      total
  change paths.length ≤ 2 ^ 64
  rw [← built.length_eq]
  omega

/-- No builder counts past 64 bits. -/
theorem ensures_planCommunication_countable :
    Ensures (planCommunication request snapshot weights bounds)
      PlanOutcome.Countable :=
  ensures_planCommunication_by_shape
    (fun valid multicast =>
      ensures_buildMulticastPlan_countable
        (destinations_of_multicast valid multicast))
    (fun _ _ => ensures_buildCollectivePlan_countable)
    (fun _ _ => ensures_planPointToPoint_countable)

/-! ## The store of one plan -/

/-- A store with one record and no request has what is wrong with the record. -/
theorem validateStore_singleton
    (store : StoreState)
    (record : StoreRecord) :
    validateStore { store with plans := [record], requests := [] } =
      recordRejection record := by
  have checked :
      recordsRejection [] [record] = recordRejection record := by
    simp only [recordsRejection, List.not_mem_nil, if_false]
    cases recordRejection record with
    | some error => rfl
    | none => rfl
  unfold validateStore
  rw [checked]
  cases recordRejection record with
  | some error => rfl
  | none => simp

/--
A planned plan with a finite total, which makes its components valid, is
accepted as the only plan of a store, in every state that asks for no claim.
-/
theorem store_of_planned_plan_is_valid
    {counters after : Counters}
    {outcome : PlanOutcome}
    {plan : CommunicationPlan}
    {state : PlanState}
    (ran :
      (planCommunication request snapshot weights bounds).run counters =
        .ok (outcome, after))
    (succeeded : outcome.success = true)
    (found : outcome.plan = some plan)
    (finite : plan.cost.totalValid = true)
    (inactive : state ∉ [PlanState.committed, .awaitingExecution, .active])
    (store : StoreState) :
    validateStore { store with plans := [⟨plan, state⟩], requests := [] } =
      none := by
  have planned :=
    ensures_planCommunication _ _ _ ran succeeded plan found
  have countable := ensures_planCommunication_countable _ _ _ ran plan found
  rw [validateStore_singleton, recordRejection_eq_none_iff]
  refine ⟨planned.recordRejection_eq_none finite countable, ?_⟩
  intro executable
  cases state with
  | committed => simp at inactive
  | awaitingExecution => simp at inactive
  | active => simp at inactive
  | _ => cases executable

end

/-- The multicast along the row is planned, and its store is valid. -/
theorem store_of_row_multicast_is_valid :
    ∃ outcome after plan,
      (planCommunication rowMulticast stagedRow {} {}).run {} =
        .ok (outcome, after) ∧
      outcome.success = true ∧
      outcome.plan = some plan ∧
      plan.cost.totalValid = true ∧
      (plan.candidatePaths.map fun path => path.stages.length) = [1, 2] ∧
      ∀ store : StoreState,
        validateStore
            { store with plans := [⟨plan, .planReady⟩], requests := [] } =
          none := by
  have checked :
      ((planCommunication rowMulticast stagedRow {} {}).run
        {}).toOption.any (fun result =>
          result.1.success && result.1.plan.any fun plan =>
            plan.cost.totalValid &&
            (plan.candidatePaths.map fun path =>
              path.stages.length) == [1, 2]) = true := by
    decide +kernel
  obtain ⟨outcome, after, plan, ran, succeeded, found, passes⟩ :=
    exists_plan_of_run checked
  rw [Bool.and_eq_true, beq_iff_eq] at passes
  obtain ⟨finite, lengths⟩ := passes
  refine ⟨outcome, after, plan, ran, succeeded, found, finite, lengths, ?_⟩
  exact store_of_planned_plan_is_valid ran succeeded found finite (by decide)

end CommunicationPlanner
