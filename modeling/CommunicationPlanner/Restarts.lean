import CommunicationPlanner.HandoffFeasibility

namespace CommunicationPlanner

open OrderedCollections TransitionRun

/-!
# Restarts

A coordinator that ends, by whatever cause, may be started again on the store
file that it left.  What the file does not hold is lost: the registry, the
connections, the cancellations, the broker and the counters that identities and
generations are drawn from.  A `Lifetime` is a run of any number of processes,
each of them started on the file of the one before it.
-/

/-- What happens over the lifetime of a store file. -/
inductive LifeEvent where
  | process (event : Event)
  | restart

/-- A step of a process, or its end and the start of the next. -/
abbrev LifeStep := Step Coordinator LifeEvent Action

namespace Coordinator

variable
  {config : Config}
  {store : Option (List UInt8)}
  {trace past later : List LifeStep}
  {step : LifeStep}
  {before after state : Coordinator}
  {event : LifeEvent}
  {actions : List Action}

/-- A step of the process that runs now, or the start of the next one. -/
def lifeStep?
    (config : Config)
    (state : Coordinator) :
    LifeEvent → Option (Coordinator × List Action)
  | .process event => step? config state event
  | .restart => some (start state.store, [])

/-- A run of a first process on the store file and of those after it. -/
abbrev Lifetime
    (config : Config)
    (store : Option (List UInt8))
    (trace : List LifeStep)
    (state : Coordinator) : Prop :=
  Run (lifeStep? config) (start store) trace state

/-- A step of the lifetime is a step of a process, or a restart. -/
theorem lifeStep?_cases
    (stepped : lifeStep? config before event = some (after, actions)) :
    (∃ handled,
      event = .process handled ∧
        step? config before handled = some (after, actions)) ∨
    (event = .restart ∧ after = start before.store ∧ actions = []) := by
  cases event with
  | process handled =>
      exact .inl ⟨handled, rfl, stepped⟩
  | restart =>
      cases stepped
      exact .inr ⟨rfl, rfl, rfl⟩

/-- The running process takes one more step. -/
theorem lifetime_snoc
    {event : Event}
    (lifetime : Lifetime config store trace before)
    (stepped : step? config before event = some (after, actions)) :
    Lifetime config store
      (trace ++ [⟨before, .process event, actions, after⟩]) after :=
  lifetime.snoc stepped

/-- The step of the running process, if the step is not a restart. -/
def processStep? (step : LifeStep) : Option CoordinatorStep :=
  match step.event with
  | .process event => some ⟨step.before, event, step.outputs, step.after⟩
  | .restart => none

theorem step_of_processStep?
    {taken : CoordinatorStep}
    (stepped :
      lifeStep? config step.before step.event =
        some (step.after, step.outputs))
    (isProcess : processStep? step = some taken) :
    taken.before = step.before ∧ taken.after = step.after ∧
      step? config taken.before taken.event =
        some (taken.after, taken.outputs) := by
  rcases step with ⟨before, event, outputs, after⟩
  cases event with
  | restart =>
      cases isProcess
  | process handled =>
      cases isProcess
      exact ⟨rfl, rfl, stepped⟩

/-- The process that a restart begins. -/
def restartedAs (step : LifeStep) : Option Coordinator :=
  match step.event with
  | .process _ => none
  | .restart => some step.after

/-- The running process as it was when it started. -/
def startedAs
    (store : Option (List UInt8))
    (past : List LifeStep) : Coordinator :=
  (latest? restartedAs past).getD (start store)

/-- What every new process and every event upholds in the registry. -/
theorem registry_invariant_of_lifetime
    (lifetime : Lifetime config store trace state)
    (property : Registry → Prop)
    (starts : ∀ store, property (start store).registry)
    (steps :
      ∀ registry event, property registry →
        property (registry.apply (registry.effect event))) :
    property state.registry := by
  refine lifetime.invariant (fun state => property state.registry)
    (starts store) ?_
  intro step _ lifeStepped holds
  rcases lifeStep?_cases lifeStepped with
    ⟨handled, _, stepped⟩ | ⟨_, restarted, _⟩
  · rw [registry_of_step? stepped, Registry.next_eq_apply]
    exact steps _ _ holds
  · rw [restarted]
    exact starts _

theorem distinctIds_of_lifetime
    (lifetime : Lifetime config store trace state) :
    DistinctIds state.registry.snap :=
  registry_invariant_of_lifetime lifetime
    (fun registry => DistinctIds registry.snap)
    (fun _ => ⟨List.nodup_nil, List.nodup_nil⟩)
    fun _ _ distinct => Registry.distinctIds_apply distinct _

/-! ## Plans made after a restart -/

/--
The plan gets an entry of the table of its own, and neither its identity nor its
generation is left over from the processes before.
-/
structure FreshPlan
    (recovered before : Coordinator)
    (plan : CommunicationPlan) : Prop where
  vacant : before.ledger.plans[plan.id]? = none
  otherId :
    ∀ (planId : CommunicationPlanId) (record : PlanRecord),
      recovered.ledger.plans[planId]? = some record →
      record.plan.id ≠ plan.id
  newer :
    ∀ (planId : CommunicationPlanId) (record : PlanRecord),
      recovered.ledger.plans[planId]? = some record →
      record.plan.generation < plan.generation

/--
The counters have left the recovered plans behind: the next identity is not in
the table, and the next generation is above the recovered ones.
-/
structure CountersAhead (recovered before : Coordinator) : Prop where
  plan :
    (⟨before.ledger.counters.plan⟩ : CommunicationPlanId) ∉
      before.ledger.plans
  planGeneration :
    ∀ (planId : CommunicationPlanId) (record : PlanRecord),
      recovered.ledger.plans[planId]? = some record →
      record.plan.generation < ⟨before.ledger.counters.planGeneration⟩

/-- The table of a process keeps every identity that it has once held. -/
theorem mem_plans_of_step?
    {event : Event}
    {planId : CommunicationPlanId}
    (stepped : step? config before event = some (after, actions))
    (held : planId ∈ before.ledger.plans) :
    planId ∈ after.ledger.plans := by
  have change : PlanStep config before planId event
      after.ledger.plans[planId]? := planStep_of_step? stepped
  rw [Std.ExtTreeMap.mem_iff_isSome_getElem?] at held ⊢
  generalize after.ledger.plans[planId]? = result at change
  cases change with
  | same =>
      exact held
  | written | entered =>
      rfl

/-- What the running process recovered is still in its table. -/
theorem recovered_subset_of_lifetime
    (lifetime : Lifetime config store trace state) :
    ∀ planId ∈ (startedAs store trace).ledger.plans,
      planId ∈ state.ledger.plans := by
  induction lifetime with
  | nil =>
      intro planId held
      exact held
  | snoc earlier last inductionHypothesis =>
      intro planId held
      rcases lifeStep?_cases last with
        ⟨handled, rfl, stepped⟩ | ⟨rfl, rfl, rfl⟩
      · refine mem_plans_of_step? stepped (inductionHypothesis planId ?_)
        simpa [startedAs, restartedAs] using held
      · simpa [startedAs, restartedAs] using held

theorem keyed_startedAs
    (lifetime : Lifetime config store trace state) :
    Keyed (startedAs store trace) := by
  induction lifetime with
  | nil =>
      exact keyed_start store
  | snoc earlier last inductionHypothesis =>
      rcases lifeStep?_cases last with
        ⟨handled, rfl, stepped⟩ | ⟨rfl, rfl, rfl⟩
      · simpa [startedAs, restartedAs] using inductionHypothesis
      · simpa [startedAs, restartedAs] using keyed_start _

/--
A submission makes a fresh plan exactly when the counters of the process, which
begin again at one, are ahead of what the process recovered.
-/
theorem submission_makes_fresh_plan_iff
    (lifetime : Lifetime config store (past ++ step :: later) state)
    {submission : CoordinatorStep}
    (isProcess : processStep? step = some submission)
    {request : CommunicationRequest}
    {plan : CommunicationPlan}
    (submitted : submits submission request plan) :
    FreshPlan (startedAs store past) submission.before plan ↔
      CountersAhead (startedAs store past) submission.before := by
  obtain ⟨earlier, lifeStepped, _⟩ := lifetime.cut
  obtain ⟨sameBefore, _, stepped⟩ := step_of_processStep? lifeStepped isProcess
  rw [← sameBefore] at earlier
  obtain ⟨produced, _⟩ := produced_of_submits _ stepped submitted
  constructor
  · intro fresh
    constructor
    · rw [← produced.id, Std.ExtTreeMap.mem_iff_isSome_getElem?, fresh.vacant]
      simp
    · rw [← produced.generation]
      exact fresh.newer
  · intro ahead
    have vacant := ahead.plan
    rw [← produced.id] at vacant
    refine ⟨?_, ?_, ?_⟩
    · simpa using vacant
    · intro planId record found same
      have named := keyed_startedAs earlier planId record found
      refine vacant ?_
      rw [← same, named]
      exact recovered_subset_of_lifetime earlier planId
        (Std.ExtTreeMap.mem_iff_isSome_getElem?.mpr (by simp [found]))
    · rw [produced.generation]
      exact ahead.planGeneration

/--
A plan is made and saved, and in the next process the requests of a list come
before one whose plan is numbered as given.
-/
def restartScenario
    (requests : List CommunicationRequest)
    (planId : CommunicationPlanId)
    (test : Coordinator → Coordinator → CommunicationPlan → Bool) : Bool :=
  (replay? (lifeStep? defaultConfig) (start none)
    ((deployment ⟨4⟩ ⟨1⟩ ++
        receiveAll ⟨4⟩
          [ CoordinatorClient.submitRequest (directRequest ⟨5⟩),
            CoordinatorClient.save ]).map .process ++
      [.restart] ++
      (deployment ⟨4⟩ ⟨1⟩ ++
        receiveAll ⟨4⟩
          (requests.map CoordinatorClient.submitRequest)).map .process)).any
    fun reached =>
      (step? defaultConfig reached.2
        (.receive ⟨4⟩ (CoordinatorClient.submitRequest
          (directRequest ⟨6⟩)))).any fun submitted =>
        reached.2.planState? planId ≠ submitted.1.planState? planId &&
        submitted.1.ledger.plans[planId]?.any fun record =>
          test (startedAs none reached.1) reached.2 record.plan

private theorem exists_submission_of_scenario
    {requests : List CommunicationRequest}
    {planId : CommunicationPlanId}
    {test : Coordinator → Coordinator → CommunicationPlan → Bool}
    (checked : restartScenario requests planId test = true) :
    ∃ past step submission plan,
      Lifetime defaultConfig none (past ++ [step]) step.after ∧
      processStep? step = some submission ∧
      submits submission (directRequest ⟨6⟩) plan ∧
      test (startedAs none past) submission.before plan = true := by
  obtain ⟨past, state, reached, holds⟩ := exists_run_of_replay? checked
  obtain ⟨⟨after, outputs⟩, stepped, holds⟩ :=
    (Option.any_eq_true _ _).mp holds
  rw [Bool.and_eq_true, decide_eq_true_eq] at holds
  obtain ⟨changed, holds⟩ := holds
  obtain ⟨record, entered, holds⟩ := (Option.any_eq_true _ _).mp holds
  exact ⟨past, _, _, record.plan, lifetime_snoc reached stepped, rfl,
    submits_of_entered stepped rfl entered changed, holds⟩

/--
A request that is refused after its plan was numbered moves the counters of the
new process past the recovered plan.
-/
theorem submission_after_refusal_makes_fresh_plan :
    ∃ past step submission plan recovered,
      Lifetime defaultConfig none (past ++ [step]) step.after ∧
      processStep? step = some submission ∧
      submits submission (directRequest ⟨6⟩) plan ∧
      (startedAs none past).ledger.plans[(⟨1⟩ : CommunicationPlanId)]? =
        some recovered ∧
      FreshPlan (startedAs none past) submission.before plan := by
  have checked :
      restartScenario [miscountedRequest ⟨7⟩] ⟨2⟩
        (fun recovered before _ =>
          !before.ledger.plans.contains ⟨before.ledger.counters.plan⟩ &&
          recovered.ledger.plans[(⟨1⟩ : CommunicationPlanId)]?.isSome &&
          recovered.ledger.plans.toList.all fun entry =>
            entry.2.plan.generation <
              ⟨before.ledger.counters.planGeneration⟩) = true := by
    decide +kernel
  obtain ⟨past, step, submission, plan, lifetime, isProcess, submitted,
    holds⟩ := exists_submission_of_scenario checked
  simp only [Bool.and_eq_true, List.all_eq_true, decide_eq_true_eq] at holds
  obtain ⟨⟨vacant, isRecovered⟩, older⟩ := holds
  obtain ⟨recovered, found⟩ := Option.isSome_iff_exists.mp isRecovered
  refine ⟨past, step, submission, plan, recovered, lifetime, isProcess,
    submitted, found,
    (submission_makes_fresh_plan_iff lifetime isProcess submitted).mpr
      ⟨?_, ?_⟩⟩
  · simpa [← Std.ExtTreeMap.contains_iff_mem] using vacant
  · intro planId record inTable
    exact older (planId, record)
      (Std.ExtTreeMap.mem_toList_iff_getElem?_eq_some.mpr inTable)

/-- The first plan of the next process replaces the one that was saved. -/
theorem restarted_process_reuses_plan_id :
    ∃ past step submission plan recovered,
      Lifetime defaultConfig none (past ++ [step]) step.after ∧
      processStep? step = some submission ∧
      submits submission (directRequest ⟨6⟩) plan ∧
      (startedAs none past).ledger.plans[plan.id]? = some recovered ∧
      recovered.plan.id = plan.id ∧
      recovered.plan.requestId = ⟨5⟩ ∧
      ¬recovered.plan.generation < plan.generation ∧
      submission.before.ledger.plans[plan.id]?.isSome = true ∧
      ¬FreshPlan (startedAs none past) submission.before plan := by
  have checked :
      restartScenario [] ⟨1⟩
        (fun recovered before plan =>
          before.ledger.plans[plan.id]?.isSome &&
          recovered.ledger.plans[plan.id]?.any fun record =>
            record.plan.id = plan.id && record.plan.requestId = ⟨5⟩ &&
              !decide (record.plan.generation < plan.generation)) = true := by
    decide +kernel
  obtain ⟨past, step, submission, plan, lifetime, isProcess, submitted,
    holds⟩ := exists_submission_of_scenario checked
  rw [Bool.and_eq_true] at holds
  obtain ⟨taken, holds⟩ := holds
  obtain ⟨recovered, found, holds⟩ := (Option.any_eq_true _ _).mp holds
  simp only [Bool.and_eq_true, Bool.not_eq_true', decide_eq_true_eq,
    decide_eq_false_iff_not] at holds
  obtain ⟨⟨sameId, ofRequest⟩, notNewer⟩ := holds
  refine ⟨past, step, submission, plan, recovered, lifetime, isProcess,
    submitted, found, sameId, ofRequest, notNewer, taken, ?_⟩
  intro fresh
  exact notNewer (fresh.newer plan.id recovered found)

end Coordinator

end CommunicationPlanner
