import CommunicationPlanner.PlanConstruction

namespace CommunicationPlanner

open OrderedCollections Allocation

/-!
# Determinism of planning

The planner reads a snapshot through maps, through sorted adjacency lists and
through sums, none of which depends on the order of the endpoints, links and
reservations as long as identities are distinct.  What remains of two runs is
the identities they draw, and these do not influence anything else.
-/

/-- The two snapshots hold the same evidence in different orders. -/
structure Reordered (first second : EvidenceSnapshot) : Prop where
  endpoints : first.endpoints.Perm second.endpoints
  links : first.links.Perm second.links
  reservations : first.reservations.Perm second.reservations
  otherwise :
    second =
      { first with
        endpoints := second.endpoints
        links := second.links
        reservations := second.reservations }

/-- No two endpoints and no two links of the snapshot share an identity. -/
structure DistinctIds (snapshot : EvidenceSnapshot) : Prop where
  endpoints : (snapshot.endpoints.map fun endpoint => endpoint.id).Nodup
  links : (snapshot.links.map fun link => link.id).Nodup

/-! ## What the planner reads -/

section

variable
  {first second : EvidenceSnapshot}

/-- The order of the endpoints does not show in their map. -/
theorem endpointMap_eq_of_reordered
    (reordered : Reordered first second)
    (distinct : DistinctIds first) :
    first.endpointMap = second.endpointMap :=
  indexBy_eq_of_perm distinct.endpoints reordered.endpoints

/-- The order of the links does not show in their map. -/
theorem linkMap_eq_of_reordered
    (reordered : Reordered first second)
    (distinct : DistinctIds first) :
    first.linkMap = second.linkMap :=
  indexBy_eq_of_perm distinct.links reordered.links

/-- The order of the reservations does not show in their sums. -/
theorem reservedOn_eq_of_reordered
    (reordered : Reordered first second) :
    reservedOn first = reservedOn second := by
  funext resource
  have commutes :
      RightCommutative fun (reserved : UInt64) (reservation : Reservation) =>
        if reservation.resource = resource then
          reserved + reservation.reserved.count
        else
          reserved := by
    constructor
    intro reserved one other
    split_ifs
    · rw [UInt64.add_assoc, UInt64.add_assoc,
        UInt64.add_comm one.reserved.count]
    all_goals rfl
  exact reordered.reservations.foldl_eq 0

/-- The order of the evidence does not show in who is current. -/
theorem endpointFresh_eq_of_reordered
    (reordered : Reordered first second)
    (endpoint : Endpoint) :
    endpointFresh endpoint first = endpointFresh endpoint second := by
  rw [reordered.otherwise]
  rfl

/-- The order of the evidence does not show in a verdict. -/
theorem evaluateCandidateFeasibility_eq_of_reordered
    (reordered : Reordered first second)
    (distinct : DistinctIds first)
    (request : CommunicationRequest)
    (candidate : CandidatePath)
    (bounds : Bounds) :
    evaluateCandidateFeasibility request first candidate bounds =
      evaluateCandidateFeasibility request second candidate bounds := by
  have sameEndpointChecks :
      endpointRejection first = endpointRejection second := by
    funext transport endpoint
    simp only [endpointRejection, endpointFresh_eq_of_reordered reordered]
  have sameHopChecks :
      hopRejection request first = hopRejection request second := by
    funext endpoints links hop
    simp only [hopRejection, linkRejection, sameEndpointChecks,
      reservedOn_eq_of_reordered reordered]
  have samePolicy : second.policyGeneration = first.policyGeneration := by
    rw [reordered.otherwise]
  simp only [evaluateCandidateFeasibility, sameHopChecks, samePolicy,
    endpointMap_eq_of_reordered reordered distinct,
    linkMap_eq_of_reordered reordered distinct]

/-- The order of the evidence does not show in a cost. -/
theorem evaluateCandidateCost_eq_of_reordered
    (reordered : Reordered first second)
    (distinct : DistinctIds first)
    (request : CommunicationRequest)
    (candidate : CandidatePath)
    (weights : RankingWeights) :
    evaluateCandidateCost request first candidate weights =
      evaluateCandidateCost request second candidate weights := by
  simp only [evaluateCandidateCost,
    endpointMap_eq_of_reordered reordered distinct,
    linkMap_eq_of_reordered reordered distinct]

/-- The order of the evidence does not show in an assessment. -/
theorem assess_eq_of_reordered
    (reordered : Reordered first second)
    (distinct : DistinctIds first)
    (request : CommunicationRequest)
    (weights : RankingWeights)
    (bounds : Bounds) :
    assess request first weights bounds =
      assess request second weights bounds := by
  have sameReports :
      candidateReport request first weights bounds =
        candidateReport request second weights bounds := by
    funext candidate
    simp only [candidateReport,
      evaluateCandidateFeasibility_eq_of_reordered reordered distinct,
      evaluateCandidateCost_eq_of_reordered reordered distinct]
  funext source destination
  simp only [assess, sameReports,
    enumerateCandidatePaths_eq_of_perm reordered.links]

/-- Reordering the evidence does not change the computation. -/
theorem planCommunication_eq_of_reordered
    (reordered : Reordered first second)
    (distinct : DistinctIds first)
    (request : CommunicationRequest)
    (weights : RankingWeights)
    (bounds : Bounds) :
    planCommunication request first weights bounds =
      planCommunication request second weights bounds := by
  have sameAssessment :=
    assess_eq_of_reordered reordered distinct request weights bounds
  have sameEndpoints := endpointMap_eq_of_reordered reordered distinct
  have sameLinks := linkMap_eq_of_reordered reordered distinct
  have sameMakePath :
      ∀ id candidate cost,
        makePath id candidate first request cost =
          makePath id candidate second request cost := by
    intro id candidate cost
    simp only [makePath, sameLinks]
  have sameMakePaths :
      makePaths first request = makePaths second request := by
    funext built retained
    induction retained generalizing built with
    | nil =>
        rfl
    | cons chosen rest inductionHypothesis =>
        simp only [makePaths, sameMakePath, inductionHypothesis]
  have sameSnapshot :
      ∀ plan : CommunicationPlan,
        plan.bindSnapshot first = plan.bindSnapshot second := by
    intro plan
    rw [reordered.otherwise]
    rfl
  have sameBindings :
      ∀ plan : CommunicationPlan,
        plan.bindGenerations first = plan.bindGenerations second := by
    intro plan
    simp only [CommunicationPlan.bindGenerations, sameEndpoints, sameLinks]
  have sameMulticastStep :
      multicastStep request first weights bounds =
        multicastStep request second weights bounds := by
    funext state destination
    simp only [multicastStep, sameAssessment, sameMakePath]
  have sameLoop :
      collectiveLoop request first weights bounds =
        collectiveLoop request second weights bounds := by
    funext root members state
    induction members generalizing state with
    | nil =>
        rfl
    | cons member rest inductionHypothesis =>
        simp only [collectiveLoop, sameAssessment, sameMakePath,
          inductionHypothesis]
  have sameParticipants :
      participantRejection request first bounds =
        participantRejection request second bounds := by
    simp only [participantRejection, sameEndpoints,
      endpointFresh_eq_of_reordered reordered]
  simp only [planCommunication, planPointToPoint, buildMulticastPlan,
    buildCollectivePlan, pointToPointPlan, sameAssessment, sameEndpoints,
    sameLinks, sameMakePaths, sameSnapshot, sameBindings, sameMulticastStep,
    sameLoop, sameParticipants]

end

/-! ## What does not depend on the drawn identities -/

/-- The stage without its identity. -/
def Stage.anonymous (stage : Stage) : Stage :=
  { stage with id := ⟨0⟩ }

/-- The path without the identities of its stages. -/
def Path.anonymous (path : Path) : Path :=
  { path with stages := path.stages.map Stage.anonymous }

/-- The plan without its identity, its generation and its stage identities. -/
def CommunicationPlan.anonymous (plan : CommunicationPlan) :
    CommunicationPlan :=
  { plan with
    id := ⟨0⟩
    generation := ⟨0⟩
    candidatePaths := plan.candidatePaths.map Path.anonymous
    orderedStages := plan.orderedStages.map Stage.anonymous }

/-- The outcome with an anonymous plan; everything else is as it was. -/
def PlanOutcome.anonymous (outcome : PlanOutcome) : PlanOutcome :=
  { outcome with plan := outcome.plan.map CommunicationPlan.anonymous }

/-- Two values are the same up to what `anonymous` forgets. -/
def SameUpTo (anonymous : α → α) (first second : α) : Prop :=
  anonymous first = anonymous second

section

variable
  {request : CommunicationRequest}
  {snapshot : EvidenceSnapshot}
  {weights : RankingWeights}
  {bounds : Bounds}

/-- Drawing from a counter agrees with itself, whatever is drawn. -/
theorem agrees_modifyGet
    {update : Counters → α × Counters} :
    Agrees (fun _ _ => True)
      (MonadStateOf.modifyGet update : Planner α)
      (MonadStateOf.modifyGet update) := by
  intro firstBefore secondBefore
  exact True.intro

/-- Stages agree up to their identities. -/
theorem agrees_buildStages
    (links : Map LinkId Link)
    (hops : List Hop) :
    Agrees (SameUpTo (List.map Stage.anonymous))
      (buildStages request links hops)
      (buildStages request links hops) := by
  induction hops with
  | nil =>
      exact Agrees.pure rfl
  | cons hop rest inductionHypothesis =>
      unfold buildStages
      cases links[hop.link]? with
      | none =>
          exact Agrees.throw
      | some link =>
          refine Agrees.bind agrees_modifyGet ?_
          intro firstId secondId _
          refine Agrees.bind inductionHypothesis ?_
          intro firstLater secondLater same
          apply Agrees.pure
          simp only [SameUpTo, List.map_cons] at same ⊢
          rw [same]
          rfl

/-- Paths agree up to the identities of their stages. -/
theorem agrees_makePath
    (id : PathId)
    (candidate : CandidatePath)
    (cost : CostSummary) :
    Agrees (SameUpTo Path.anonymous)
      (makePath id candidate snapshot request cost)
      (makePath id candidate snapshot request cost) := by
  refine Agrees.bind (agrees_buildStages _ _) ?_
  intro firstStages secondStages same
  apply Agrees.pure
  unfold SameUpTo at same
  simp only [SameUpTo, Path.anonymous, same]

/-- Lists of paths agree up to the identities of their stages. -/
theorem agrees_makePaths
    (built : Nat)
    (retained : List (CandidatePath × CostSummary)) :
    Agrees (SameUpTo (List.map Path.anonymous))
      (makePaths snapshot request built retained)
      (makePaths snapshot request built retained) := by
  induction retained generalizing built with
  | nil =>
      exact Agrees.pure rfl
  | cons chosen rest inductionHypothesis =>
      refine Agrees.bind (agrees_makePath _ _ _) ?_
      intro firstPath secondPath samePath
      refine Agrees.bind (inductionHypothesis _) ?_
      intro firstLater secondLater sameLater
      apply Agrees.pure
      unfold SameUpTo at samePath sameLater
      simp only [SameUpTo, List.map_cons, samePath, sameLater]

/-- What a plan takes from its first path survives anonymity. -/
private theorem head?_anonymous
    (paths : List Path)
    {project : Path → β}
    (kept : ∀ path, project path.anonymous = project path)
    (default : β) :
    ((paths.map Path.anonymous).head?.map project).getD default =
      (paths.head?.map project).getD default := by
  cases paths with
  | nil =>
      rfl
  | cons path rest =>
      simp [kept]

/-- The first stages of anonymous paths are the anonymous first stages. -/
private theorem firstStages_anonymous
    (paths : List Path) :
    ((paths.map Path.anonymous).head?.map fun path => path.stages).getD [] =
      ((paths.head?.map fun path => path.stages).getD []).map
        Stage.anonymous := by
  cases paths with
  | nil =>
      rfl
  | cons path rest =>
      rfl

/-- A point-to-point plan over anonymous paths is the anonymous plan. -/
private theorem anonymous_pointToPointPlan
    (id : CommunicationPlanId)
    (generation : CommunicationPlanGeneration)
    (retained : List (CandidatePath × CostSummary))
    (paths : List Path)
    (total rejected : Nat) :
    (pointToPointPlan request snapshot id generation retained paths total
        rejected).anonymous =
      pointToPointPlan request snapshot ⟨0⟩ ⟨0⟩ retained
        (paths.map Path.anonymous) total rejected := by
  have sameIds :
      (paths.map Path.anonymous).tail.map (fun path => path.id) =
        paths.tail.map fun path => path.id := by
    simp [← List.map_tail, Function.comp_def, Path.anonymous]
  simp only [pointToPointPlan, CommunicationPlan.anonymous,
    CommunicationPlan.bindSnapshot, sameIds, firstStages_anonymous,
    head?_anonymous paths (fun path => (rfl : path.anonymous.id = path.id)),
    head?_anonymous paths
      (fun path => (rfl : path.anonymous.cost = path.cost)),
    List.length_map]

/-- Plans of a transfer agree up to the identities drawn. -/
theorem agrees_planPointToPoint :
    Agrees (SameUpTo PlanOutcome.anonymous)
      (planPointToPoint request snapshot weights bounds)
      (planPointToPoint request snapshot weights bounds) := by
  unfold planPointToPoint
  cases request.destinations with
  | nil =>
      exact Agrees.throw
  | cons destination others =>
      simp only
      split_ifs
      · exact Agrees.pure rfl
      · refine Agrees.bind agrees_modifyGet ?_
        intro firstId secondId _
        refine Agrees.bind agrees_modifyGet ?_
        intro firstGeneration secondGeneration _
        refine Agrees.bind (agrees_makePaths _ _) ?_
        intro firstPaths secondPaths same
        apply Agrees.pure
        unfold SameUpTo at same
        simp only [SameUpTo, PlanOutcome.anonymous, Option.map_some,
          anonymous_pointToPointPlan, same]

/-- Bindings and claims do not look at identities of stages. -/
private theorem anonymous_bindGenerations
    (plan : CommunicationPlan) :
    (plan.bindGenerations snapshot).anonymous =
      plan.anonymous.bindGenerations snapshot := by
  have sameStages :
      (plan.candidatePaths.map Path.anonymous).flatMap
          (fun path => path.stages) =
        (plan.candidatePaths.flatMap fun path => path.stages).map
          Stage.anonymous := by
    simp [List.flatMap_map, List.map_flatMap, Path.anonymous]
  simp only [CommunicationPlan.bindGenerations, CommunicationPlan.anonymous,
    sameStages, List.flatMap_map, List.map_map]
  rfl

private theorem anonymous_bindSnapshot
    (plan : CommunicationPlan) :
    (plan.bindSnapshot snapshot).anonymous =
      plan.anonymous.bindSnapshot snapshot :=
  rfl

/-- The accumulator of a multicast without the identities of stages. -/
def MulticastState.anonymous (state : MulticastState) : MulticastState :=
  { state with candidatePaths := state.candidatePaths.map Path.anonymous }

private theorem agrees_multicastStep
    {first second : MulticastState}
    (same : SameUpTo MulticastState.anonymous first second)
    (destination : EndpointId) :
    Agrees (SameUpTo MulticastState.anonymous)
      (multicastStep request snapshot weights bounds first destination)
      (multicastStep request snapshot weights bounds second destination) := by
  have sameLength :
      first.candidatePaths.length = second.candidatePaths.length := by
    have lengths := congrArg (fun state => state.candidatePaths.length) same
    simpa [MulticastState.anonymous] using lengths
  rcases first with ⟨firstPaths, primaryPath, reports, ranked, comps,
    explanations, anyFail⟩
  rcases second with ⟨secondPaths, _, _, _, _, _, _⟩
  simp only [SameUpTo, MulticastState.anonymous,
    MulticastState.mk.injEq] at same
  obtain ⟨samePaths, rfl, rfl, rfl, rfl, rfl, rfl⟩ := same
  simp only at sameLength
  unfold multicastStep
  simp only [sameLength]
  split
  · apply Agrees.pure
    simp only [SameUpTo, MulticastState.anonymous, samePaths]
  · refine Agrees.bind (agrees_makePath _ _ _) ?_
    intro firstPath secondPath samePath
    apply Agrees.pure
    unfold SameUpTo at samePath
    have sameId : firstPath.anonymous.id = secondPath.anonymous.id := by
      rw [samePath]
    simp only [Path.anonymous] at sameId
    simp only [SameUpTo, MulticastState.anonymous, List.map_append,
      samePaths, List.map_cons, List.map_nil, samePath, sameId]

/-- Plans of a multicast agree up to the identities drawn. -/
theorem agrees_buildMulticastPlan :
    Agrees (SameUpTo PlanOutcome.anonymous)
      (buildMulticastPlan request snapshot weights bounds)
      (buildMulticastPlan request snapshot weights bounds) := by
  unfold buildMulticastPlan
  refine Agrees.bind agrees_modifyGet ?_
  intro firstId secondId _
  refine Agrees.bind agrees_modifyGet ?_
  intro firstGeneration secondGeneration _
  refine Agrees.bind
    (Agrees.foldlM _ (fun first second same destination _ =>
      agrees_multicastStep same destination) rfl) ?_
  rintro ⟨firstPaths, _, _, _, _, _, _⟩ ⟨secondPaths, _, _, _, _, _, _⟩ same
  simp only [SameUpTo, MulticastState.anonymous,
    MulticastState.mk.injEq] at same
  obtain ⟨samePaths, rfl, rfl, rfl, rfl, rfl, rfl⟩ := same
  apply Agrees.pure
  simp only [SameUpTo, PlanOutcome.anonymous, Option.map_some,
    anonymous_bindSnapshot, anonymous_bindGenerations]
  simp only [CommunicationPlan.anonymous, ← firstStages_anonymous, samePaths]

private theorem agrees_collectiveLoop
    (root : EndpointId)
    (members : List EndpointId)
    {first second : CollectiveState}
    (samePaths :
      first.candidatePaths.map Path.anonymous =
        second.candidatePaths.map Path.anonymous)
    (sameRanked : first.ranked = second.ranked)
    (sameComps : first.comps = second.comps) :
    Agrees
      (fun one other =>
        one.1.candidatePaths.map Path.anonymous =
            other.1.candidatePaths.map Path.anonymous ∧
          one.1.ranked = other.1.ranked ∧ one.1.comps = other.1.comps ∧
          one.2 = other.2)
      (collectiveLoop request snapshot weights bounds root members first)
      (collectiveLoop request snapshot weights bounds root members
        second) := by
  induction members generalizing first second with
  | nil =>
      exact Agrees.pure ⟨samePaths, sameRanked, sameComps, rfl⟩
  | cons member rest inductionHypothesis =>
      have sameLength :
          first.candidatePaths.length = second.candidatePaths.length := by
        simpa using congrArg List.length samePaths
      unfold collectiveLoop
      split
      · exact inductionHypothesis samePaths sameRanked sameComps
      simp only
      split
      · exact Agrees.pure ⟨samePaths, sameRanked, sameComps, rfl⟩
      · rw [sameLength]
        refine Agrees.bind (agrees_makePath _ _ _) ?_
        intro firstPath secondPath samePath
        unfold SameUpTo at samePath
        apply inductionHypothesis
        · simp only [List.map_append, samePaths, List.map_cons,
            List.map_nil, samePath]
        · simp only [sameRanked]
        · simp only [sameComps]

/-- Plans of a collective agree up to the identities drawn. -/
theorem agrees_buildCollectivePlan :
    Agrees (SameUpTo PlanOutcome.anonymous)
      (buildCollectivePlan request snapshot weights bounds)
      (buildCollectivePlan request snapshot weights bounds) := by
  unfold buildCollectivePlan
  refine Agrees.bind agrees_modifyGet ?_
  intro firstId secondId _
  refine Agrees.bind agrees_modifyGet ?_
  intro firstGeneration secondGeneration _
  simp only
  split
  · exact Agrees.pure rfl
  · exact Agrees.throw
  · refine Agrees.bind (agrees_collectiveLoop _ _ rfl rfl rfl) ?_
    rintro ⟨⟨firstPaths, _, _⟩, unreached⟩ ⟨⟨secondPaths, _, _⟩, _⟩
      ⟨samePaths, sameRanked, sameComps, rfl⟩
    simp only at samePaths sameRanked sameComps
    subst sameRanked sameComps
    cases unreached with
    | some member =>
        apply Agrees.pure
        simp only [SameUpTo, PlanOutcome.anonymous, Option.map_some,
          CommunicationPlan.anonymous, samePaths]
    | none =>
        have sameLength : firstPaths.length = secondPaths.length := by
          simpa using congrArg List.length samePaths
        have samePrimary :
            (firstPaths.head?.map fun path => path.id).getD ⟨0⟩ =
              (secondPaths.head?.map fun path => path.id).getD ⟨0⟩ := by
          rw [← head?_anonymous firstPaths (fun path => rfl), samePaths,
            head?_anonymous secondPaths (fun path => rfl)]
        apply Agrees.pure
        simp only [SameUpTo, PlanOutcome.anonymous, Option.map_some,
          anonymous_bindSnapshot, anonymous_bindGenerations]
        simp only [CommunicationPlan.anonymous, ← firstStages_anonymous,
          samePaths, sameLength, samePrimary]

/--
Two runs on one snapshot differ in the identities they draw, and only there.
-/
theorem agrees_planCommunication :
    Agrees (SameUpTo PlanOutcome.anonymous)
      (planCommunication request snapshot weights bounds)
      (planCommunication request snapshot weights bounds) := by
  unfold planCommunication
  split
  · exact Agrees.throw
  · split
    · exact agrees_buildMulticastPlan
    · exact agrees_buildCollectivePlan
    · exact agrees_planPointToPoint

end

end CommunicationPlanner
