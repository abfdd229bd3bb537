import CommunicationPlanner.HandoffFeasibility

namespace CommunicationPlanner

open OrderedCollections TransitionRun Allocation

/-!
# Revalidation of staged plans

A plan over relays requires staging memory at them.  The broker grants it at
commit time without looking at the snapshot, while revalidation asks the
snapshot for the capacity of every staging resource; but no message tells the
coordinator such a capacity.  So, when nothing else has changed, revalidation
passes exactly the plans that need no staging.
-/

/-! ## What the builders bind -/

/-- Nothing is staged on the way exactly when the path is a single stage. -/
def Path.StagesAtRelays (path : Path) : Prop :=
  (∀ stage ∈ path.stages, stage.stagingResource.isNull = true) ↔
    path.stages.length ≤ 1

/-- The stages that a plan claims staging memory for need none. -/
def CommunicationPlan.direct (plan : CommunicationPlan) : Bool :=
  match plan.shape with
  | .pointToPoint =>
      plan.candidatePaths.head?.all fun path => path.stages.length ≤ 1
  | _ => plan.candidatePaths.all fun path => path.stages.length ≤ 1

/-- What a plan takes over from the snapshot, besides its endpoints and links. -/
structure SnapshotBound
    (snapshot : EvidenceSnapshot)
    (plan : CommunicationPlan) : Prop where
  topology : plan.topologyGeneration = snapshot.topologyGeneration
  capacity : plan.capacityGeneration = snapshot.capacityGeneration
  reservation : plan.reservationGeneration = snapshot.reservationGeneration
  congestion : plan.congestionGeneration = snapshot.congestionGeneration
  staging : plan.requiredStagingResources = [] ↔ plan.direct = true

/-- The staging resource of a relay has an odd number. -/
theorem stagingResourceFor_ne_null
    (relay : EndpointId) :
    stagingResourceFor relay ≠ ⟨0⟩ := by
  intro isNull
  have even := congrArg (fun id => id.value.toNat % 2) isNull
  simp only [stagingResourceFor, UInt64.toNat_add, UInt64.toNat_mul,
    UInt64.toNat_ofNat] at even
  omega

theorem orderedSet_eq_nil_iff
    {κ : Type}
    [LinearOrder κ]
    {items : List κ} :
    orderedSet items = [] ↔ items = [] := by
  simp only [List.eq_nil_iff_forall_not_mem, mem_orderedSet]

section

variable
  {request : CommunicationRequest}
  {snapshot : EvidenceSnapshot}
  {weights : RankingWeights}
  {bounds : Bounds}

private theorem staging_buildStages
    (request : CommunicationRequest)
    (links : Map LinkId Link)
    (hops : List Hop) :
    Ensures (buildStages request links hops) fun stages =>
      (∀ stage ∈ stages, stage.stagingResource.isNull = true) ↔
        stages.length ≤ 1 := by
  cases hops with
  | nil =>
      exact Ensures.pure (by simp)
  | cons hop rest =>
      unfold buildStages
      cases links[hop.link]? with
      | none =>
          exact Ensures.throw
      | some link =>
          refine Ensures.bind Ensures.trivial ?_
          intro id _
          refine Ensures.bind (ensures_buildStages request links rest) ?_
          rintro later ⟨laterHops, _⟩
          apply Ensures.pure
          cases rest with
          | nil =>
              rw [List.map_eq_nil_iff] at laterHops
              simp [laterHops, buildStage]
          | cons next others =>
              have longer : ¬(later.length + 1 ≤ 1) := by
                have same := congrArg List.length laterHops
                rw [List.length_map, List.length_cons] at same
                omega
              simp [buildStage, stagingResourceFor_ne_null, longer]

private theorem staging_makePath
    (id : PathId)
    (candidate : CandidatePath)
    (cost : CostSummary) :
    Ensures (makePath id candidate snapshot request cost)
      Path.StagesAtRelays := by
  refine Ensures.bind (staging_buildStages _ _ _) ?_
  intro stages staged
  exact Ensures.pure staged

/-- The claims of several paths are empty when each is a single stage. -/
private theorem claims_eq_nil_iff
    {plan : CommunicationPlan}
    (staged : ∀ path ∈ plan.candidatePaths, path.StagesAtRelays) :
    (plan.bindGenerations snapshot).requiredStagingResources = [] ↔
      ∀ path ∈ plan.candidatePaths, path.stages.length ≤ 1 := by
  simp only [CommunicationPlan.bindGenerations, orderedSet_eq_nil_iff,
    List.filter_eq_nil_iff, List.mem_map, List.mem_flatMap,
    Bool.not_eq_true', Bool.not_eq_false]
  constructor
  · intro unstaged path member
    refine (staged path member).mp ?_
    intro stage inPath
    exact unstaged _ ⟨stage, ⟨path, member, inPath⟩, rfl⟩
  · rintro single _ ⟨stage, ⟨path, member, inPath⟩, rfl⟩
    exact (staged path member).mpr (single path member) stage inPath

/-- A fan-out plan is bound to the snapshot, whatever its paths are. -/
private theorem snapshotBound_of_staged
    {bare : CommunicationPlan}
    (fansOut : bare.shape ≠ .pointToPoint)
    (staged : ∀ path ∈ bare.candidatePaths, path.StagesAtRelays) :
    SnapshotBound snapshot
      ((bare.bindGenerations snapshot).bindSnapshot snapshot) := by
  refine ⟨rfl, rfl, rfl, rfl, ?_⟩
  simp only [CommunicationPlan.direct, CommunicationPlan.bindSnapshot]
  rw [claims_eq_nil_iff staged]
  split
  · rename_i pointToPoint
    exact absurd pointToPoint fansOut
  · simp [CommunicationPlan.bindGenerations]

private theorem bound_buildMulticastPlan :
    Ensures (buildMulticastPlan request snapshot weights bounds)
      fun outcome =>
        ∀ plan, outcome.plan = some plan → SnapshotBound snapshot plan := by
  refine ensures_multicast_gathered
    (Ensures.foldlM _ (fun state staged destination _ =>
      ensures_multicastStep_of_makePath staging_makePath staged destination)
      (by simp)) ?_
  intro final bare staged gathers _ _
  rw [← gathers.samePaths] at staged
  exact snapshotBound_of_staged gathers.fansOut staged

private theorem bound_buildCollectivePlan :
    Ensures (buildCollectivePlan request snapshot weights bounds)
      fun outcome =>
        outcome.success = true →
        ∀ plan, outcome.plan = some plan → SnapshotBound snapshot plan := by
  refine ensures_collective_gathered
    (fun root =>
      ensures_collectiveLoop_of_makePath staging_makePath root _ (by simp)) ?_
  intro final bare _ staged gathers _ _
  rw [← gathers.samePaths] at staged
  exact snapshotBound_of_staged gathers.fansOut staged

private theorem bound_planPointToPoint :
    Ensures (planPointToPoint request snapshot weights bounds)
      fun outcome =>
        ∀ plan, outcome.plan = some plan → SnapshotBound snapshot plan := by
  refine ensures_pointToPoint_assembled (ensures_makePaths _ _ _) ?_
  rintro destination id generation total rejected paths - ⟨_, built⟩
  refine ⟨rfl, rfl, rfl, rfl, ?_⟩
  simp only [pointToPointPlan, CommunicationPlan.direct,
    CommunicationPlan.bindSnapshot, orderedSet_eq_nil_iff]
  generalize (assess request snapshot weights bounds request.source
    destination).retained _ = retained at built
  cases built with
  | nil =>
      simp
  | cons first _ =>
      simp only [List.head?_cons, Option.map_some, Option.getD_some,
        List.map_eq_nil_iff, Option.all_some, decide_eq_true_eq,
        first.length_stages]
      rw [← List.length_eq_zero_iff, List.length_dropLast]
      omega

/-- Every plan the planner succeeds with is bound to the whole snapshot. -/
theorem snapshotBound_of_planCommunication :
    Ensures (planCommunication request snapshot weights bounds)
      fun outcome =>
        outcome.success = true →
        ∀ plan, outcome.plan = some plan → SnapshotBound snapshot plan :=
  ensures_planCommunication_by_shape
    (fun _ _ => bound_buildMulticastPlan.weaken fun _ bound _ => bound)
    (fun _ _ => bound_buildCollectivePlan)
    (fun _ _ => bound_planPointToPoint.weaken fun _ bound _ => bound)

/-! ## Revalidation on the snapshot of planning -/

variable {plan : CommunicationPlan}

/-- An endpoint that passed the hard filter passes revalidation. -/
private theorem boundEndpointFailure_eq_none
    {id : EndpointId}
    {endpoint : Endpoint}
    {transport : Transport}
    (found : snapshot.endpointMap[id]? = some endpoint)
    (admissible : EndpointAdmissible snapshot transport endpoint) :
    boundEndpointFailure snapshot (endpoint.id, endpoint.generation) =
      none := by
  have named := (mem_of_getElem?_indexBy found).2
  refine boundEndpointFailure_eq_none_iff.mpr ⟨endpoint, ?_, rfl,
    admissible.fresh, admissible.reachable, admissible.ready⟩
  rw [named]
  exact found

theorem Planned.boundEndpointFailure_eq_none_of_mem
    (planned : Planned request snapshot weights bounds plan)
    {bound : EndpointId × EndpointGeneration}
    (member : bound ∈ plan.endpointGenerations) :
    boundEndpointFailure snapshot bound = none := by
  rw [planned.endpoints, boundEndpoints, mem_orderedPairs,
    List.mem_filterMap] at member
  obtain ⟨id, used, lookup⟩ := member
  obtain ⟨endpoint, found, rfl⟩ := Option.map_eq_some_iff.mp lookup
  obtain ⟨stage, inStages, visited⟩ := List.mem_flatMap.mp used
  obtain ⟨path, inPlan, inPath⟩ := List.mem_flatMap.mp inStages
  obtain ⟨link, source, target, admissible⟩ :=
    planned.hop_admissible inPlan inPath
  have sourceFound : snapshot.endpointMap[stage.source]? = some source :=
    admissible.sourceFound
  have targetFound : snapshot.endpointMap[stage.destination]? = some target :=
    admissible.targetFound
  simp only [List.mem_cons, List.not_mem_nil, or_false] at visited
  rcases visited with rfl | rfl
  · rw [sourceFound] at found
    cases found
    exact boundEndpointFailure_eq_none sourceFound
      admissible.sourceAdmissible
  · rw [targetFound] at found
    cases found
    exact boundEndpointFailure_eq_none targetFound
      admissible.targetAdmissible

theorem Planned.boundLinkFailure_eq_none_of_mem
    (planned : Planned request snapshot weights bounds plan)
    {bound : LinkId × LinkGeneration}
    (member : bound ∈ plan.linkGenerations) :
    boundLinkFailure snapshot bound = none := by
  rw [planned.links, boundLinks, mem_orderedPairs, List.mem_filterMap]
    at member
  obtain ⟨id, used, lookup⟩ := member
  obtain ⟨link, found, rfl⟩ := Option.map_eq_some_iff.mp lookup
  obtain ⟨stage, inStages, rfl⟩ := List.mem_map.mp used
  obtain ⟨path, inPlan, inPath⟩ := List.mem_flatMap.mp inStages
  obtain ⟨known, source, target, admissible⟩ :=
    planned.hop_admissible inPlan inPath
  have linkFound : snapshot.linkMap[stage.link]? = some known :=
    admissible.linkFound
  rw [linkFound] at found
  cases found
  refine boundLinkFailure_eq_none_iff.mpr ⟨link, ?_, rfl, admissible.healthy,
    admissible.belowHardLimit⟩
  rw [(mem_of_getElem?_indexBy linkFound).2]
  exact linkFound

theorem Planned.pathFailure_eq_none_of_mem
    (planned : Planned request snapshot weights bounds plan)
    {path : Path}
    (inPlan : path ∈ plan.candidatePaths) :
    pathFailure snapshot path = none := by
  have stages :
      path.stages.findSome? (stageFailure snapshot) = none := by
    rw [List.findSome?_eq_none_iff]
    intro stage inPath
    obtain ⟨link, source, target, admissible⟩ :=
      planned.hop_admissible inPlan inPath
    have linkFound : snapshot.linkMap[stage.link]? = some link :=
      admissible.linkFound
    have sourceFound : snapshot.endpointMap[stage.source]? = some source :=
      admissible.sourceFound
    have targetFound :
        snapshot.endpointMap[stage.destination]? = some target :=
      admissible.targetFound
    simp [stageFailure, linkFound, sourceFound, targetFound,
      admissible.healthy, admissible.belowHardLimit,
      admissible.sourceAdmissible.fresh,
      admissible.sourceAdmissible.reachable,
      admissible.sourceAdmissible.ready,
      admissible.targetAdmissible.fresh,
      admissible.targetAdmissible.reachable,
      admissible.targetAdmissible.ready]
  simp [pathFailure, revalidatePath, stages]

theorem SnapshotBound.generationFailure_eq_none
    (bound : SnapshotBound snapshot plan) :
    generationFailure plan snapshot = none := by
  simp [generationFailure, bound.topology, bound.congestion, bound.capacity,
    bound.reservation]

/-- The staging memory is known, and nowhere known to be used up. -/
def StagingAvailable
    (snapshot : EvidenceSnapshot)
    (resource : ResourceId) : Prop :=
  (∃ capacity, (resource, capacity) ∈ snapshot.resourceCapacities) ∧
    ∀ capacity, (resource, capacity) ∈ snapshot.resourceCapacities →
      capacity.usable.count ≠ 0

theorem stagingFailure_eq_none_iff
    {resource : ResourceId} :
    stagingFailure snapshot resource = none ↔
      StagingAvailable snapshot resource := by
  have usedUpIff :
      ((snapshot.resourceCapacities.filter fun entry =>
        entry.1 = resource).any fun entry =>
          entry.2.usable.count < 1) = true ↔
        ∃ capacity, (resource, capacity) ∈ snapshot.resourceCapacities ∧
          capacity.usable.count = 0 := by
    simp only [List.any_eq_true, List.mem_filter, decide_eq_true_eq,
      UInt64.lt_one_iff]
    constructor
    · rintro ⟨⟨_, capacity⟩, ⟨known, rfl⟩, usedUp⟩
      exact ⟨capacity, known, usedUp⟩
    · rintro ⟨capacity, known, usedUp⟩
      exact ⟨(resource, capacity), ⟨known, rfl⟩, usedUp⟩
  have unknownIff :
      (snapshot.resourceCapacities.filter fun entry =>
        entry.1 = resource).isEmpty = true ↔
        ¬∃ capacity, (resource, capacity) ∈ snapshot.resourceCapacities := by
    simp only [List.isEmpty_iff, List.filter_eq_nil_iff, decide_eq_true_eq,
      Prod.forall, not_exists]
    constructor
    · intro unknown capacity known
      exact unknown resource capacity known rfl
    · rintro unknown _ capacity known rfl
      exact unknown capacity known
  unfold stagingFailure StagingAvailable
  simp only
  split_ifs with usedUp unknown
  · obtain ⟨capacity, known, isZero⟩ := usedUpIff.mp usedUp
    simp only [false_iff, not_and]
    intro _ available
    exact available capacity known isZero
  · simp only [false_iff, not_and]
    intro known
    exact (unknownIff.mp unknown known).elim
  · simp only [true_iff]
    refine ⟨not_not.mp (unknownIff.not.mp unknown), ?_⟩
    intro capacity known isZero
    exact usedUp (usedUpIff.mpr ⟨capacity, known, isZero⟩)

/--
On its own snapshot only the staging memory can keep a plan from passing
revalidation.
-/
theorem Planned.revalidates_iff_staging
    (planned : Planned request snapshot weights bounds plan)
    (bound : SnapshotBound snapshot plan) :
    (revalidatePlan plan snapshot).ok = true ↔
      ∀ resource ∈ plan.requiredStagingResources,
        StagingAvailable snapshot resource := by
  constructor
  · intro passed resource member
    obtain ⟨_, _, _, _, staging⟩ := failures_eq_none_of_ok passed
    exact stagingFailure_eq_none_iff.mp (staging resource member)
  · intro available
    refine ok_of_failures_eq_none bound.generationFailure_eq_none
      (fun _ => planned.boundEndpointFailure_eq_none_of_mem)
      (fun _ => planned.boundLinkFailure_eq_none_of_mem)
      (fun _ => planned.pathFailure_eq_none_of_mem) ?_
    intro resource member
    exact stagingFailure_eq_none_iff.mpr (available resource member)

/-- A plan that passes revalidation is reported as feasible. -/
theorem feasibility_of_revalidated
    (passed : (revalidatePlan plan snapshot).ok = true) :
    (revalidatePlan plan snapshot).feasibility = .feasible := by
  obtain ⟨generation, endpoints, links, paths, staging⟩ :=
    failures_eq_none_of_ok passed
  have allFeasible :
      (plan.candidatePaths.all fun path =>
        (revalidatePath path snapshot).feasibility = .feasible) = true := by
    rw [List.all_eq_true]
    intro path inPlan
    have unfailed := paths path inPlan
    unfold pathFailure revalidatePath at unfailed
    unfold revalidatePath
    cases searched : path.stages.findSome? (stageFailure snapshot) with
    | none =>
        rfl
    | some failure =>
        exfalso
        obtain ⟨stage, _, failed⟩ := List.exists_of_findSome?_eq_some searched
        rw [searched] at unfailed
        simp [ok_stageFailure failed] at unfailed
  unfold revalidatePlan
  rw [List.findSome?_eq_none_iff.mpr endpoints,
    List.findSome?_eq_none_iff.mpr links, List.findSome?_eq_none_iff.mpr paths,
    List.findSome?_eq_none_iff.mpr staging, generation]
  simp only [Option.or_none, allFeasible, if_true]

/--
On a snapshot that knows no resource capacities, the plan made of it passes
revalidation exactly when it needs no staging.
-/
theorem Planned.revalidates_iff
    (planned : Planned request snapshot weights bounds plan)
    (bound : SnapshotBound snapshot plan)
    (unknown : snapshot.resourceCapacities = []) :
    (revalidatePlan plan snapshot).ok = true ↔ plan.direct = true := by
  rw [planned.revalidates_iff_staging bound, ← bound.staging]
  simp [StagingAvailable, unknown, List.eq_nil_iff_forall_not_mem]

end

/--
Right after planning succeeded, the plan passes revalidation on the same
snapshot exactly when each staging resource it requires has a capacity there,
and none without usable bandwidth; then it is reported as feasible.
-/
theorem planned_plan_revalidates_iff
    (request : CommunicationRequest)
    (snapshot : EvidenceSnapshot)
    (weights : RankingWeights)
    (bounds : Bounds)
    {before after : Counters}
    {outcome : PlanOutcome}
    {plan : CommunicationPlan}
    (ran :
      (planCommunication request snapshot weights bounds).run before =
        .ok (outcome, after))
    (success : outcome.success = true)
    (returned : outcome.plan = some plan) :
    ((revalidatePlan plan snapshot).ok = true ↔
      ∀ resource ∈ plan.requiredStagingResources,
        (∃ capacity, (resource, capacity) ∈ snapshot.resourceCapacities) ∧
          ∀ capacity, (resource, capacity) ∈ snapshot.resourceCapacities →
            capacity.usable.count ≠ 0) ∧
    ((revalidatePlan plan snapshot).ok = true →
      (revalidatePlan plan snapshot).feasibility = .feasible) := by
  have planned : Planned request snapshot weights bounds plan :=
    ensures_planCommunication _ _ _ ran success plan returned
  have bound : SnapshotBound snapshot plan :=
    snapshotBound_of_planCommunication _ _ _ ran success plan returned
  exact ⟨planned.revalidates_iff_staging bound, feasibility_of_revalidated⟩

/-- Two devices linked over a third one, whose staging memory is known. -/
def stagedRow : EvidenceSnapshot :=
  { endpoints :=
      [ mkEndpoint ⟨1⟩ ⟨1⟩ .gpuDevice .nvlink,
        mkEndpoint ⟨2⟩ ⟨1⟩ .gpuDevice .nvlink,
        mkEndpoint ⟨3⟩ ⟨1⟩ .gpuDevice .nvlink ]
    links :=
      [ mkLink ⟨7⟩ ⟨1⟩ ⟨1⟩ ⟨2⟩ .nvlink 10000000000,
        mkLink ⟨8⟩ ⟨1⟩ ⟨2⟩ ⟨3⟩ .nvlink 10000000000 ]
    resourceCapacities := [(stagingResourceFor ⟨2⟩, { usable := ⟨1⟩ })] }

/-- A multicast to the second and to the third device of the row. -/
def rowMulticast : CommunicationRequest :=
  { mkRequest ⟨5⟩ ⟨1⟩ ⟨2⟩ 4096 with
    shape := .multicast
    destinations := [⟨2⟩, ⟨3⟩] }

/-- The planner stages a request over the row at the endpoint between. -/
theorem exists_plan_on_stagedRow :
    ∃ outcome after plan,
      (planCommunication (mkRequest ⟨5⟩ ⟨1⟩ ⟨3⟩ 4096) stagedRow {} {}).run {} =
        .ok (outcome, after) ∧
      outcome.success = true ∧
      outcome.plan = some plan ∧
      plan.requiredStagingResources = [stagingResourceFor ⟨2⟩] := by
  have checked :
      ((planCommunication (mkRequest ⟨5⟩ ⟨1⟩ ⟨3⟩ 4096) stagedRow {} {}).run
        {}).toOption.any (fun result =>
          result.1.success && result.1.plan.any fun plan =>
            plan.requiredStagingResources == [stagingResourceFor ⟨2⟩]) =
        true := by
    decide +kernel
  obtain ⟨outcome, after, plan, ran, success, returned, required⟩ :=
    exists_plan_of_run checked
  exact ⟨outcome, after, plan, ran, success, returned, beq_iff_eq.mp required⟩

/-- The plan over the relay passes. -/
theorem planned_plan_revalidates_on_stagedRow :
    ∃ outcome after plan,
      (planCommunication (mkRequest ⟨5⟩ ⟨1⟩ ⟨3⟩ 4096) stagedRow {} {}).run {} =
        .ok (outcome, after) ∧
      outcome.plan = some plan ∧
      plan.requiredStagingResources = [stagingResourceFor ⟨2⟩] ∧
      (revalidatePlan plan stagedRow).ok = true := by
  obtain ⟨outcome, after, plan, ran, success, returned, required⟩ :=
    exists_plan_on_stagedRow
  have passesIff :=
    (planned_plan_revalidates_iff _ _ _ _ ran success returned).1
  refine ⟨outcome, after, plan, ran, returned, required, passesIff.mpr ?_⟩
  rw [required]
  simp [stagedRow]

theorem Ledger.Produces.snapshotBound
    {ledger : Ledger}
    {snapshot : EvidenceSnapshot}
    {config : Config}
    {request : CommunicationRequest}
    {plan : CommunicationPlan}
    (produced : ledger.Produces snapshot config request plan) :
    SnapshotBound snapshot plan := by
  obtain ⟨outcome, counters, ran, success, returned⟩ := produced
  exact snapshotBound_of_planCommunication _ _ _ ran success plan returned

/-! ## From planning to the handoff -/

namespace Coordinator

variable
  {config : Config}
  {store : Option (List UInt8)}
  {trace past between future : List CoordinatorStep}
  {submission check : CoordinatorStep}
  {before after final : Coordinator}
  {event : Event}
  {actions : List Action}

/-- The capacity of a resource is never reported to a coordinator. -/
theorem resourceCapacities_of_run
    (run : ProcessRun config store trace final) :
    final.registry.snap.resourceCapacities = [] := by
  refine registry_invariant run
    (fun registry => registry.snap.resourceCapacities = []) rfl ?_
  intro registry event unknown
  exact (registry.snap_apply_frame (registry.effect event)).2.2.trans unknown

/-- A registration, a publication, a withdrawal or the end of a connection. -/
def disturbs : Event → Bool
  | .receive _ message =>
      message.type ∈
        [MessageType.register, .publishEndpoint, .publishLink,
          .publishCapacity, .publishCongestion, .cancel, .supersede]
  | .disconnect _ => true
  | _ => false

theorem registry_of_undisturbed
    (stepped : step? config before event = some (after, actions))
    (undisturbed : disturbs event = false) :
    after.registry = before.registry := by
  rw [registry_of_step? stepped]
  cases event with
  | receive socket message =>
      simp only [Registry.next, Registry.receive]
      cases kind : message.type <;> simp [disturbs, kind] at undisturbed ⊢
  | disconnect socket =>
      cases undisturbed
  | accept | undecodable | acquire | finish | saveStore =>
      rfl

/-- The step is a message of the kind for the plan. -/
def AsksFor
    (step : CoordinatorStep)
    (kind : MessageType)
    (plan : CommunicationPlan) : Prop :=
  ∃ socket message record,
    step.event = .receive socket message ∧
    message.type = kind ∧
    step.before.ledger.plans[message.planId]? = some record ∧
    record.plan = plan

theorem revalidationSucceeds_iff
    {step : CoordinatorStep}
    {plan : CommunicationPlan}
    (stepped :
      step? config step.before step.event = some (step.after, step.outputs))
    (asks : AsksFor step .revalidate plan) :
    revalidationSucceeds step plan ↔
      (revalidatePlan plan step.before.registry.snap).ok = true := by
  constructor
  · exact revalidated_of_revalidationSucceeds step stepped
  · intro passed
    obtain ⟨socket, message, record, received, kind, found, rfl⟩ := asks
    rcases step with ⟨before, event, outputs, after⟩
    cases received
    exact revalidationSucceeds_of_revalidated stepped kind found passed

theorem handoffSucceeds_iff
    {step : CoordinatorStep}
    {plan : CommunicationPlan}
    (stepped :
      step? config step.before step.event = some (step.after, step.outputs))
    (asks : AsksFor step .executionHandoff plan) :
    handoffSucceeds step plan ↔
      (revalidatePlan plan step.before.registry.snap).ok = true := by
  constructor
  · exact revalidated_of_handoffSucceeds step stepped
  · intro passed
    obtain ⟨socket, message, record, received, kind, found, rfl⟩ := asks
    rcases step with ⟨before, event, outputs, after⟩
    cases received
    exact handoffSucceeds_of_revalidated stepped kind found passed

/-- As long as nothing disturbs, only staging keeps a plan from passing. -/
theorem revalidates_iff_of_undisturbed
    (run :
      ProcessRun config store
        (past ++ submission :: (between ++ check :: future)) final)
    {request : CommunicationRequest}
    {plan : CommunicationPlan}
    (submitted : submits submission request plan)
    (undisturbed : ∀ step ∈ between, disturbs step.event = false) :
    (revalidatePlan plan check.before.registry.snap).ok = true ↔
      plan.direct = true := by
  obtain ⟨pastRun, submissionStepped, laterRun⟩ := run.cut
  obtain ⟨betweenRun, _, _⟩ := laterRun.cut
  have produced :=
    (produced_of_submits submission submissionStepped submitted).1
  have sameRegistry :
      check.before.registry = submission.before.registry := by
    refine betweenRun.invariant
      (fun state => state.registry = submission.before.registry)
      (registry_of_submits submissionStepped submitted) ?_
    intro step member stepped same
    exact (registry_of_undisturbed stepped (undisturbed step member)).trans
      same
  rw [sameRegistry]
  exact produced.planned.revalidates_iff produced.snapshotBound
    (resourceCapacities_of_run pastRun)

/--
Let nothing be published, registered, disconnected, cancelled or superseded
since a plan was made.  Then, committed or not, its revalidation and its handoff
succeed exactly when it needs no staging.
-/
theorem undisturbed_plan_passes_iff
    (run :
      ProcessRun config store
        (past ++ submission :: (between ++ check :: future)) final)
    {request : CommunicationRequest}
    {plan : CommunicationPlan}
    (submitted : submits submission request plan)
    (undisturbed : ∀ step ∈ between, disturbs step.event = false) :
    (AsksFor check .revalidate plan →
      (revalidationSucceeds check plan ↔ plan.direct = true)) ∧
    (AsksFor check .executionHandoff plan →
      (handoffSucceeds check plan ↔ plan.direct = true)) := by
  have verdict := revalidates_iff_of_undisturbed run submitted undisturbed
  obtain ⟨_, _, laterRun⟩ := run.cut
  obtain ⟨_, checkStepped, _⟩ := laterRun.cut
  constructor
  · intro asks
    exact (revalidationSucceeds_iff checkStepped asks).trans verdict
  · intro asks
    exact (handoffSucceeds_iff checkStepped asks).trans verdict

/-- The plan of a request is made and committed, and then asked for twice. -/
structure CommittedRuns
    (request : CommunicationRequest)
    (plan : CommunicationPlan)
    (past : List CoordinatorStep)
    (submission : CoordinatorStep)
    (between : List CoordinatorStep)
    (revalidation handoff : CoordinatorStep) : Prop where
  revalidationRun :
    ProcessRun defaultConfig none
      (past ++ submission :: (between ++ [revalidation])) revalidation.after
  handoffRun :
    ProcessRun defaultConfig none
      (past ++ submission :: (between ++ [handoff])) handoff.after
  submitted : submits submission request plan
  committed : ∃ step ∈ between, commits step plan.id = true
  undisturbed : ∀ step ∈ between, disturbs step.event = false
  revalidates : AsksFor revalidation .revalidate plan
  handsOff : AsksFor handoff .executionHandoff plan

/-- The events of `CommittedRuns`, and a test of the plan. -/
def commitScenario
    (events : List Event)
    (request : CommunicationRequest)
    (test : CommunicationPlan → Bool) : Bool :=
  (replay? (step? defaultConfig) (start none) events).any fun planning =>
    (step? defaultConfig planning.2
      (.receive ⟨4⟩ (CoordinatorClient.submitRequest request))).any
      fun submitted =>
        (replay? (step? defaultConfig) submitted.1
          [ .receive ⟨4⟩ (CoordinatorClient.commitPlan ⟨1⟩),
            .acquire ⟨4⟩, .finish ⟨4⟩ ]).any fun committed =>
          planning.2.planState? ⟨1⟩ ≠ submitted.1.planState? ⟨1⟩ &&
          (committed.1.any fun step => commits step ⟨1⟩) &&
          (committed.1.all fun step => !disturbs step.event) &&
          (step? defaultConfig committed.2
            (.receive ⟨4⟩ (CoordinatorClient.revalidate ⟨1⟩))).isSome &&
          (step? defaultConfig committed.2
            (.receive ⟨4⟩ (CoordinatorClient.executionHandoff ⟨1⟩))).isSome &&
          submitted.1.ledger.plans[(⟨1⟩ : CommunicationPlanId)]?.any
            fun record =>
              committed.2.ledger.plans[(⟨1⟩ : CommunicationPlanId)]?.any
                fun kept =>
                  kept.plan = record.plan && record.plan.id = ⟨1⟩ &&
                    test record.plan

private theorem exists_runs_of_scenario
    {events : List Event}
    {request : CommunicationRequest}
    {test : CommunicationPlan → Bool}
    (checked : commitScenario events request test = true) :
    ∃ plan past submission between revalidation handoff,
      CommittedRuns request plan past submission between revalidation
        handoff ∧
      test plan = true := by
  obtain ⟨past, planning, pastRun, holds⟩ := exists_run_of_replay? checked
  obtain ⟨⟨submitted, replies⟩, submitStepped, holds⟩ :=
    (Option.any_eq_true _ _).mp holds
  obtain ⟨between, committed, betweenRun, holds⟩ := exists_run_of_replay? holds
  simp only [Bool.and_eq_true, decide_eq_true_eq, List.any_eq_true,
    List.all_eq_true, Bool.not_eq_true'] at holds
  obtain ⟨⟨⟨⟨⟨changed, commit⟩, undisturbed⟩, canRevalidate⟩, canHandOff⟩,
    holds⟩ := holds
  obtain ⟨⟨revalidated, answers⟩, revalidateStepped⟩ :=
    Option.isSome_iff_exists.mp canRevalidate
  obtain ⟨⟨handed, outputs⟩, handoffStepped⟩ :=
    Option.isSome_iff_exists.mp canHandOff
  obtain ⟨record, entered, holds⟩ := (Option.any_eq_true _ _).mp holds
  obtain ⟨kept, found, holds⟩ := (Option.any_eq_true _ _).mp holds
  simp only [Bool.and_eq_true, decide_eq_true_eq] at holds
  obtain ⟨⟨samePlan, named⟩, holds⟩ := holds
  have committedRun := (pastRun.snoc submitStepped).append betweenRun
  have revalidationRun := committedRun.snoc revalidateStepped
  have handoffRun := committedRun.snoc handoffStepped
  rw [List.append_assoc, List.append_assoc, List.singleton_append]
    at revalidationRun handoffRun
  refine ⟨record.plan, past, _, between, _, _,
    { revalidationRun := revalidationRun
      handoffRun := handoffRun
      submitted := submits_of_entered submitStepped rfl entered changed
      committed := by rw [named]; exact commit
      undisturbed := undisturbed
      revalidates := ⟨⟨4⟩, _, kept, rfl, rfl, found, samePlan⟩
      handsOff := ⟨⟨4⟩, _, kept, rfl, rfl, found, samePlan⟩ }, holds⟩

/-- A direct plan that was committed passes. -/
theorem committed_direct_plan_passes :
    ∃ plan past submission between revalidation handoff,
      CommittedRuns (directRequest ⟨5⟩) plan past submission between
        revalidation handoff ∧
      revalidationSucceeds revalidation plan ∧
      handoffSucceeds handoff plan := by
  have checked :
      commitScenario (deployment ⟨4⟩ ⟨1⟩) (directRequest ⟨5⟩)
        (fun plan => plan.direct) = true := by
    decide +kernel
  obtain ⟨plan, past, submission, between, revalidation, handoff, runs,
    direct⟩ := exists_runs_of_scenario checked
  exact ⟨plan, past, submission, between, revalidation, handoff, runs,
    ((undisturbed_plan_passes_iff runs.revalidationRun runs.submitted
      runs.undisturbed).1 runs.revalidates).mpr direct,
    ((undisturbed_plan_passes_iff runs.handoffRun runs.submitted
      runs.undisturbed).2 runs.handsOff).mpr direct⟩

/-- A staged plan that was committed is neither revalidated nor handed off. -/
theorem committed_staged_plan_fails :
    ∃ plan past submission between revalidation handoff,
      CommittedRuns (relayedRequest ⟨5⟩) plan past submission between
        revalidation handoff ∧
      (¬revalidationSucceeds revalidation plan) ∧
      ¬handoffSucceeds handoff plan := by
  have checked :
      commitScenario (relayDeployment ⟨4⟩ ⟨1⟩) (relayedRequest ⟨5⟩)
        (fun plan => !plan.direct) = true := by
    decide +kernel
  obtain ⟨plan, past, submission, between, revalidation, handoff, runs,
    staged⟩ := exists_runs_of_scenario checked
  rw [Bool.not_eq_true', ← Bool.not_eq_true] at staged
  refine ⟨plan, past, submission, between, revalidation, handoff, runs, ?_,
    ?_⟩
  · intro succeeded
    obtain ⟨_, _, laterRun⟩ := runs.revalidationRun.cut
    obtain ⟨_, stepped, _⟩ := laterRun.cut
    exact staged ((revalidates_iff_of_undisturbed runs.revalidationRun
      runs.submitted runs.undisturbed).mp
        (revalidated_of_revalidationSucceeds revalidation stepped succeeded))
  · intro succeeded
    obtain ⟨_, _, laterRun⟩ := runs.handoffRun.cut
    obtain ⟨_, stepped, _⟩ := laterRun.cut
    exact staged ((revalidates_iff_of_undisturbed runs.handoffRun
      runs.submitted runs.undisturbed).mp
        (revalidated_of_handoffSucceeds handoff stepped succeeded))

end Coordinator

end CommunicationPlanner
