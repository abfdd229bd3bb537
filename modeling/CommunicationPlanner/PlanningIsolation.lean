import CommunicationPlanner.BrokerHoldings
import CommunicationPlanner.Failover

namespace CommunicationPlanner

open TransitionRun

/-!
# Planning apart from the plans

Requests are planned from the evidence alone.  Whatever the clients of two
coordinators do with their plans, be it to submit, commit, hand off or withdraw
them, two coordinators of one epoch that have seen the same registrations, the
same publications and the same ends of connections plan a request alike.  In
particular a commit takes nothing from what may be planned next.
-/

namespace Coordinator

variable
  {config : Config}
  {store firstStore secondStore : Option (List UInt8)}
  {trace firstPast secondPast : List CoordinatorStep}
  {final firstFinal secondFinal : Coordinator}
  {request : CommunicationRequest}

/-- A registration, a publication or the end of a connection. -/
def touchesEvidence : Event → Bool
  | .receive _ message =>
      message.type ∈
        [MessageType.register, .publishEndpoint, .publishLink,
          .publishCapacity, .publishCongestion]
  | .disconnect _ => true
  | _ => false

/-- What the coordinator was told of the evidence, and by whom. -/
def evidenceEvents (trace : List CoordinatorStep) : List Event :=
  (trace.map fun step => step.event).filter touchesEvidence

theorem effect_of_untouching
    {event : Event}
    (registry : Registry)
    (untouching : touchesEvidence event = false) :
    registry.effect event = .nothing := by
  cases event with
  | receive socket message =>
      simp only [touchesEvidence, List.mem_cons, List.not_mem_nil, or_false,
        decide_eq_false_iff_not, not_or] at untouching
      unfold Registry.effect
      split <;> simp_all
  | disconnect => cases untouching
  | accept | undecodable | acquire | finish | saveStore => rfl

/-- The registry is made of these events, and of nothing else. -/
theorem registry_of_run
    (run : ProcessRun config store trace final) :
    final.registry =
      (evidenceEvents trace).foldl
        (fun registry event => registry.apply (registry.effect event))
        (start store).registry := by
  induction run with
  | nil =>
      rfl
  | @snoc before after trace event outputs earlier last
      inductionHypothesis =>
      rw [registry_of_step? last, Registry.next_eq_apply, inductionHypothesis]
      unfold evidenceEvents
      rw [List.map_append, List.filter_append, List.foldl_append]
      generalize (((trace.map fun step => step.event).filter
        touchesEvidence).foldl _ _ : Registry) = registry
      cases touching : touchesEvidence event with
      | true => simp [touching]
      | false =>
          rw [effect_of_untouching registry touching]
          simp [touching, Registry.apply]

theorem registry_of_start
    (sameEpoch : (start firstStore).epoch = (start secondStore).epoch) :
    (start firstStore).registry = (start secondStore).registry := by
  have registryOf (store : Option (List UInt8)) :
      (start store).registry =
        { snap := initialSnapshot (start store).epoch } := rfl
  rw [registryOf, registryOf, sameEpoch]

/-- The step brings the request, and it is not cancelled. -/
def AsksToPlan
    (step : CoordinatorStep)
    (request : CommunicationRequest) : Prop :=
  ∃ socket message,
    step.event = .receive socket message ∧
    message.type = .submitRequest ∧
    message.request = request ∧
    request.id ∉ step.before.ledger.cancelled

/-- What one of two coordinators that plan alike plans, the other plans. -/
theorem submits_alike
    {first second : CoordinatorStep}
    {plan : CommunicationPlan}
    (firstStepped :
      step? config first.before first.event = some (first.after, first.outputs))
    (secondStepped :
      step? config second.before second.event =
        some (second.after, second.outputs))
    (samePlanning :
      planCommunication request first.before.registry.snap config.weights
          config.bounds =
        planCommunication request second.before.registry.snap config.weights
          config.bounds)
    (asks : AsksToPlan second request)
    (submitted : submits first request plan) :
    ∃ other,
      submits second request other ∧ other.anonymous = plan.anonymous := by
  obtain ⟨socket, message, received, kind, rfl, open_⟩ := asks
  obtain ⟨⟨outcome, remaining, ran, success, isPlan⟩, _⟩ :=
    produced_of_submits first firstStepped submitted
  have alike :=
    @agrees_planCommunication message.request
      second.before.registry.snap config.weights config.bounds
      first.before.ledger.counters second.before.ledger.counters
  rw [← samePlanning, ran] at alike
  cases reran :
      (planCommunication message.request first.before.registry.snap
        config.weights config.bounds).run second.before.ledger.counters with
  | error failure =>
      rw [reran] at alike
      exact alike.elim
  | ok planned =>
      rw [reran] at alike
      obtain ⟨again, left⟩ := planned
      have sameOutcome : outcome.anonymous = again.anonymous := alike
      have sameSuccess : outcome.success = again.success := by
        simpa [PlanOutcome.anonymous] using
          congrArg (fun known => known.success) sameOutcome
      have samePlan :
          outcome.plan.map CommunicationPlan.anonymous =
            again.plan.map CommunicationPlan.anonymous := by
        simpa [PlanOutcome.anonymous] using
          congrArg (fun known => known.plan) sameOutcome
      rw [isPlan, Option.map_some] at samePlan
      obtain ⟨other, isOther, alikePlan⟩ :=
        Option.map_eq_some_iff.mp samePlan.symm
      refine ⟨other, ?_, alikePlan⟩
      rw [samePlanning] at reran
      exact submits_of_planned secondStepped received kind
        (id_of_validate (validate_of_run ran)) open_ reran
        (sameSuccess ▸ success) isOther

/--
Two coordinators of one epoch that have seen the same evidence plan a request
alike, up to the identities they draw, whatever became of their other plans.
-/
theorem planning_is_isolated
    {first second : CoordinatorStep}
    (firstRun :
      ProcessRun config firstStore (firstPast ++ [first]) firstFinal)
    (secondRun :
      ProcessRun config secondStore (secondPast ++ [second]) secondFinal)
    (sameEpoch : (start firstStore).epoch = (start secondStore).epoch)
    (sameEvidence : evidenceEvents firstPast = evidenceEvents secondPast)
    (firstAsks : AsksToPlan first request)
    (secondAsks : AsksToPlan second request) :
    (∀ plan,
      submits first request plan →
      ∃ other,
        submits second request other ∧ other.anonymous = plan.anonymous) ∧
    ∀ plan,
      submits second request plan →
      ∃ other,
        submits first request other ∧ other.anonymous = plan.anonymous := by
  obtain ⟨firstRun, firstStepped, _⟩ := firstRun.cut
  obtain ⟨secondRun, secondStepped, _⟩ := secondRun.cut
  have sameRegistry : first.before.registry = second.before.registry := by
    rw [registry_of_run firstRun, registry_of_run secondRun, sameEvidence,
      registry_of_start sameEpoch]
  have samePlanning :
      planCommunication request first.before.registry.snap config.weights
          config.bounds =
        planCommunication request second.before.registry.snap config.weights
          config.bounds := by
    rw [sameRegistry]
  exact ⟨fun plan => submits_alike firstStepped secondStepped samePlanning
      secondAsks,
    fun plan => submits_alike secondStepped firstStepped samePlanning.symm
      firstAsks⟩

/-- A plan over the relay takes all of its memory. -/
def relayTaken : List Event :=
  receiveAll ⟨4⟩
      [ CoordinatorClient.submitRequest (mkRequest ⟨5⟩ ⟨1⟩ ⟨3⟩ (2 ^ 30)),
        CoordinatorClient.commitPlan ⟨1⟩ ] ++
    [.acquire ⟨4⟩, .finish ⟨4⟩]

/-- A request over the relay is planned as if nothing had been taken. -/
theorem planning_ignores_commitments :
    ∃ firstPast first firstFinal secondPast second secondFinal plan other,
      ProcessRun defaultConfig none (firstPast ++ [first]) firstFinal ∧
      ProcessRun defaultConfig none (secondPast ++ [second]) secondFinal ∧
      first.before.ledger.broker.heldOf (stagingResourceFor ⟨2⟩) = 0 ∧
      second.before.ledger.broker.heldOf (stagingResourceFor ⟨2⟩) = 2 ^ 30 ∧
      submits first (relayedRequest ⟨9⟩) plan ∧
      submits second (relayedRequest ⟨9⟩) other ∧
      other.anonymous = plan.anonymous := by
  let asks : Event :=
    .receive ⟨4⟩ (CoordinatorClient.submitRequest (relayedRequest ⟨9⟩))
  have checked :
      (replay? (step? defaultConfig) (start none)
        (relayDeployment ⟨4⟩ ⟨1⟩)).any
        (fun free =>
          free.2.ledger.broker.heldOf (stagingResourceFor ⟨2⟩) = 0 &&
          (⟨9⟩ : CommunicationRequestId) ∉ free.2.ledger.cancelled &&
          free.2.planState? ⟨1⟩ = none &&
          (step? defaultConfig free.2 asks).any
            fun submitted =>
              submitted.1.ledger.plans[(⟨1⟩ : CommunicationPlanId)]?.isSome) =
          true := by
    decide +kernel
  have checkedTaken :
      (replay? (step? defaultConfig) (start none)
        (relayDeployment ⟨4⟩ ⟨1⟩ ++ relayTaken)).any
        (fun taken =>
          taken.2.ledger.broker.heldOf (stagingResourceFor ⟨2⟩) = 2 ^ 30 &&
          (⟨9⟩ : CommunicationRequestId) ∉ taken.2.ledger.cancelled &&
          (step? defaultConfig taken.2 asks).isSome) = true := by
    decide +kernel
  obtain ⟨⟨firstPast, free⟩, replayed, holds⟩ :=
    (Option.any_eq_true _ _).mp checked
  obtain ⟨⟨secondPast, taken⟩, replayedTaken, holdsTaken⟩ :=
    (Option.any_eq_true _ _).mp checkedTaken
  simp only [Bool.and_eq_true, decide_eq_true_eq] at holds holdsTaken
  obtain ⟨⟨⟨unheld, open_⟩, absent⟩, holds⟩ := holds
  obtain ⟨⟨held, openTaken⟩, answered⟩ := holdsTaken
  obtain ⟨⟨after, actions⟩, stepped, entered⟩ :=
    (Option.any_eq_true _ _).mp holds
  obtain ⟨record, entered⟩ := Option.isSome_iff_exists.mp entered
  obtain ⟨⟨afterTaken, answers⟩, steppedTaken⟩ :=
    Option.isSome_iff_exists.mp answered
  have planned := submits_of_entered stepped rfl entered (by
    rw [absent, planState?, entered]
    simp)
  have sameEvidence : evidenceEvents firstPast = evidenceEvents secondPast := by
    unfold evidenceEvents
    rw [map_event_of_replay? replayed, map_event_of_replay? replayedTaken]
    rfl
  obtain ⟨plansAlike, _⟩ :=
    planning_is_isolated ((run_of_replay? replayed).snoc stepped)
      ((run_of_replay? replayedTaken).snoc steppedTaken) rfl sameEvidence
      ⟨_, _, rfl, rfl, rfl, open_⟩ ⟨_, _, rfl, rfl, rfl, openTaken⟩
  obtain ⟨other, plannedToo, alike⟩ := plansAlike _ planned
  exact ⟨firstPast, _, after, secondPast, _, afterTaken, record.plan, other,
    (run_of_replay? replayed).snoc stepped,
    (run_of_replay? replayedTaken).snoc steppedTaken, unheld, held, planned,
    plannedToo, alike⟩

end Coordinator

end CommunicationPlanner
