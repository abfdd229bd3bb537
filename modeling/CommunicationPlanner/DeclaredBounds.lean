import CommunicationPlanner.FanOutPlans
import CommunicationPlanner.PlanBindings

namespace CommunicationPlanner

open OrderedCollections Allocation

/-!
# The declared bounds

Of the members of `Bounds` the enumeration, the hard filter and two builders
enforce the depth, the relays, the fallbacks and the participants.  The others
are read nowhere, so whether a plan respects them is a matter of its inputs.

What a plan stages depends on the best candidates between the endpoints of its
routes.  A best candidate is characterized among the enumerated ones by the
filter and the ranking key, and there is one of them at most.
-/

section

variable
  (request : CommunicationRequest)
  (snapshot : EvidenceSnapshot)
  (weights : RankingWeights)
  (bounds : Bounds)

/-- The candidate is feasible, and no other feasible one precedes it. -/
structure BestCandidate
    (source destination : EndpointId)
    (candidate : CandidatePath) : Prop where
  enumerated :
    candidate ∈ enumerateCandidatePaths snapshot source destination bounds
  feasible :
    (evaluateCandidateFeasibility request snapshot candidate
      bounds).feasible = true
  first :
    ∀ other ∈ enumerateCandidatePaths snapshot source destination bounds,
      (evaluateCandidateFeasibility request snapshot other
        bounds).feasible = true →
      keyLess (candidateKey request snapshot weights bounds other)
        (candidateKey request snapshot weights bounds candidate) = false

/-- The endpoints between which the request asks for a path. -/
def CommunicationRequest.routes
    (request : CommunicationRequest) : List (EndpointId × EndpointId) :=
  match request.effectiveShape with
  | .multicast =>
      request.destinations.map fun destination =>
        (request.source, destination)
  | .collective =>
      request.participants.head?.toList.flatMap fun root =>
        (request.participants.filter fun member => member ≠ root).map
          fun member => (root, member)
  | _ =>
      request.destinations.head?.toList.map fun destination =>
        (request.source, destination)

/-- Some route is best served over a relay that stages in the resource. -/
def StagedOnRoute (resource : ResourceId) : Prop :=
  ∃ route ∈ request.routes, ∃ candidate,
    BestCandidate request snapshot weights bounds route.1 route.2 candidate ∧
      ∃ hop ∈ candidate.hops.dropLast, stagingResourceFor hop.target = resource

/-- The inputs are within the bounds that nothing enforces. -/
structure InputsWithinBounds : Prop where
  fanout :
    request.effectiveShape = .multicast →
      request.destinations.length ≤ bounds.maxMulticastFanout.toNat
  staging :
    ∀ resources : List ResourceId, resources.Nodup →
      (∀ resource ∈ resources,
        StagedOnRoute request snapshot weights bounds resource) →
      resources.length ≤ bounds.maxStagingPerPlan.toNat
  payload :
    request.routes ≠ [] →
      request.payloadSize.count ≤ bounds.maxPayloadBytes
  endpoints : snapshot.endpoints.length ≤ bounds.maxEndpoints.toNat
  links : snapshot.links.length ≤ bounds.maxLinks.toNat

end

/-- A plan over the snapshot respects every declared bound. -/
structure CommunicationPlan.RespectsBounds
    (plan : CommunicationPlan)
    (snapshot : EvidenceSnapshot)
    (bounds : Bounds) : Prop where
  depth :
    ∀ path ∈ plan.candidatePaths,
      path.stages.length ≤ bounds.maxPathDepth.toNat
  relays :
    ∀ path ∈ plan.candidatePaths,
      path.stages.length - 1 ≤ bounds.maxRelayCount.toNat
  fallbacks : plan.fallbackPaths.length ≤ bounds.maxFallbacks.toNat
  fanout :
    plan.multicastDestinations.length ≤ bounds.maxMulticastFanout.toNat
  participants :
    plan.collectiveParticipants.length ≤
      bounds.maxCollectiveParticipants.toNat
  staging :
    plan.requiredStagingResources.length ≤ bounds.maxStagingPerPlan.toNat
  payload :
    ∀ path ∈ plan.candidatePaths,
      path.totalPayload.count ≤ bounds.maxPayloadBytes ∧
        ∀ stage ∈ path.stages, stage.payload.count ≤ bounds.maxPayloadBytes
  endpoints : snapshot.endpoints.length ≤ bounds.maxEndpoints.toNat
  links : snapshot.links.length ≤ bounds.maxLinks.toNat

section

variable
  {request : CommunicationRequest}
  {snapshot : EvidenceSnapshot}
  {weights : RankingWeights}
  {bounds : Bounds}
  {source destination : EndpointId}
  {plan : CommunicationPlan}

/-! ## The best candidate -/

/-- The hop that the snapshot has for a link. -/
def EvidenceSnapshot.hopOver
    (snapshot : EvidenceSnapshot)
    (id : LinkId) : Hop :=
  match snapshot.linkMap[id]? with
  | some link => ⟨id, link.source, link.destination⟩
  | none => ⟨id, ⟨0⟩, ⟨0⟩⟩

/-- A feasible candidate is determined by its links. -/
theorem map_hopOver_of_feasible
    {candidate : CandidatePath}
    (feasible :
      (evaluateCandidateFeasibility request snapshot candidate
        bounds).feasible = true) :
    (candidate.hops.map fun hop => hop.link).map snapshot.hopOver =
      candidate.hops := by
  have admissible := evaluateCandidateFeasibility_feasible_iff.mp feasible
  rw [List.map_map]
  calc
    _ = candidate.hops.map id := by
      apply List.map_congr_left
      intro hop member
      obtain ⟨link, _, _, hopAdmissible⟩ := admissible.hops hop member
      rw [Function.comp_apply, EvidenceSnapshot.hopOver,
        hopAdmissible.linkFound]
      simp only [← hopAdmissible.fromSource, ← hopAdmissible.toDestination,
        id_eq]
    _ = candidate.hops := List.map_id _

/-- No candidate is ranked by something that is not a number. -/
theorem numeric_candidateKey
    (candidate : CandidatePath) :
    (candidateKey request snapshot weights bounds candidate).Numeric := by
  apply numeric_rankingKey
  intro component inCost
  exact isNaN_of_mem_evaluateCandidateCost inCost

/-- The order is strict, so only one candidate is the best. -/
theorem BestCandidate.unique
    {first second : CandidatePath}
    (firstBest :
      BestCandidate request snapshot weights bounds source destination first)
    (secondBest :
      BestCandidate request snapshot weights bounds source destination
        second) :
    first = second := by
  have notAfter :=
    firstBest.first second secondBest.enumerated secondBest.feasible
  have notBefore :=
    secondBest.first first firstBest.enumerated firstBest.feasible
  rw [← Bool.not_eq_true, keyLess_iff_rank (numeric_candidateKey _)
    (numeric_candidateKey _), not_lt] at notAfter notBefore
  have sameLinks :
      (first.hops.map fun hop => hop.link) =
        second.hops.map fun hop => hop.link :=
    Key.idseq_eq_of_rank_eq (le_antisymm notAfter notBefore)
  have sameHops : first.hops = second.hops := by
    rw [← map_hopOver_of_feasible firstBest.feasible, sameLinks,
      map_hopOver_of_feasible secondBest.feasible]
  have firstPath :=
    linkPath_of_mem_enumerateCandidatePaths firstBest.enumerated
  have secondPath :=
    linkPath_of_mem_enumerateCandidatePaths secondBest.enumerated
  have sameSource := firstPath.fromSource.trans secondPath.fromSource.symm
  have sameDestination :=
    firstPath.toDestination.trans secondPath.toDestination.symm
  rcases first with ⟨firstSource, firstDestination, firstHops⟩
  rcases second with ⟨secondSource, secondDestination, secondHops⟩
  rw [CandidatePath.mk.injEq]
  exact ⟨sameSource, sameDestination, sameHops⟩

/-- The head of the ranking is the best candidate. -/
theorem bestCandidate_of_ranking
    {best : Rankable}
    {rest : List Rankable}
    (ranking :
      (assess request snapshot weights bounds source destination).ranking =
        best :: rest) :
    BestCandidate request snapshot weights bounds source destination
      best.path := by
  have ascends :
      (best :: rest).Pairwise fun first second =>
        (rankingKey first).rank ≤ (rankingKey second).rank := by
    rw [← ranking]
    exact pairwise_rank_ranking
  have isRanked :
      best ∈
        (assess request snapshot weights bounds source
          destination).ranking := by
    simp [ranking]
  obtain ⟨enumerated, feasible, same, _⟩ :=
    mem_rankables_assess_iff.mp (mem_ranking_assess_iff.mp isRanked)
  rw [same] at feasible
  refine ⟨enumerated, feasible, ?_⟩
  intro other otherEnumerated otherFeasible
  let rankable : Rankable :=
    { path := other
      feasibility :=
        evaluateCandidateFeasibility request snapshot other bounds
      cost := evaluateCandidateCost request snapshot other weights }
  have otherRanked : rankable ∈ best :: rest := by
    rw [← ranking, mem_ranking_assess_iff, mem_rankables_assess_iff]
    exact ⟨otherEnumerated, otherFeasible, rfl, rfl⟩
  have notBefore : (rankingKey best).rank ≤ (rankingKey rankable).rank := by
    rcases List.mem_cons.mp otherRanked with isBest | later
    · rw [isBest]
    · exact List.rel_of_pairwise_cons ascends later
  rw [rankable_eq_of_mem_ranking isRanked] at notBefore
  rw [← Bool.not_eq_true, keyLess_iff_rank (numeric_candidateKey _)
    (numeric_candidateKey _), not_lt]
  exact notBefore

/-! ## The paths to be executed -/

/-- What is executed is among the candidates. -/
theorem executedPaths_subset
    (shape : RequestShape) :
    plan.executedPaths shape ⊆ plan.candidatePaths := by
  intro path executed
  unfold CommunicationPlan.executedPaths at executed
  split at executed
  · exact executed
  · exact executed
  · exact List.mem_of_find?_eq_some (Option.mem_toList.mp executed)

/-- Only a plan without candidates executes nothing. -/
theorem Planned.executedPaths_eq_nil_iff
    (planned : Planned request snapshot weights bounds plan)
    (shape : RequestShape) :
    plan.executedPaths shape = [] ↔ plan.candidatePaths = [] := by
  unfold CommunicationPlan.executedPaths
  split
  · rfl
  · rfl
  · rw [planned.primary?_eq_head?, Option.toList_eq_nil_iff,
      List.head?_eq_none_iff]

/-- The path stages in the resources of the relays it runs over. -/
def Path.StagesInRelays (path : Path) : Prop :=
  ∀ resource : ResourceId, resource.isNull = false →
    ((∃ stage ∈ path.stages, stage.stagingResource = resource) ↔
      ∃ hop ∈ (path.stages.map Stage.hop).dropLast,
        stagingResourceFor hop.target = resource)

/-- A path stages at its relays alone. -/
theorem stagesInRelays_makePath
    (id : PathId)
    (candidate : CandidatePath)
    (cost : CostSummary) :
    Ensures (makePath id candidate snapshot request cost)
      Path.StagesInRelays := by
  refine ((resources_makePath id candidate cost).and
    (ensures_makePath id candidate snapshot request cost)).weaken ?_
  rintro path ⟨resources, _, built⟩
  unfold Path.StagesInRelays
  rw [built.hops]
  exact resources

/-! ## What the builders do about the bounds -/

/-- What a plan owes to the request and to the bounds that are enforced. -/
structure PlannedWithin
    (request : CommunicationRequest)
    (snapshot : EvidenceSnapshot)
    (weights : RankingWeights)
    (bounds : Bounds)
    (plan : CommunicationPlan) : Prop where
  served :
    List.Forall₂
      (fun (route : EndpointId × EndpointId) path =>
        RunsOverBest request snapshot weights bounds route.1 route.2 path)
      request.routes (plan.executedPaths request.effectiveShape)
  fallbacks : plan.fallbackPaths.length ≤ bounds.maxFallbacks.toNat
  destinations :
    plan.multicastDestinations =
      if request.effectiveShape = .multicast then
        request.destinations
      else
        []
  participants :
    plan.collectiveParticipants.length ≤
      bounds.maxCollectiveParticipants.toNat

/--
A multicast has no fallbacks, and takes its destinations from the request.
-/
theorem copied_buildMulticastPlan :
    Ensures (buildMulticastPlan request snapshot weights bounds)
      fun outcome =>
        ∀ plan, outcome.plan = some plan →
          plan.fallbackPaths = [] ∧
            plan.multicastDestinations = request.destinations ∧
            plan.collectiveParticipants = [] := by
  refine Ensures.bind Ensures.trivial ?_
  intro id _
  refine Ensures.bind Ensures.trivial ?_
  intro generation _
  refine Ensures.bind Ensures.trivial ?_
  intro final _
  apply Ensures.pure
  simp only [Option.some.injEq, forall_eq']
  exact ⟨rfl, rfl, rfl⟩

/-- A planned multicast executes the best candidate of every route. -/
theorem within_buildMulticastPlan
    (multicast : request.effectiveShape = .multicast) :
    Ensures (buildMulticastPlan request snapshot weights bounds)
      fun outcome =>
        outcome.success = true →
        ∀ plan, outcome.plan = some plan →
          PlannedWithin request snapshot weights bounds plan := by
  refine (ensures_buildMulticastPlan_best.and
    copied_buildMulticastPlan).weaken ?_
  rintro outcome ⟨⟨_, best⟩, copied⟩ success plan returned
  obtain ⟨same, isPlan, served⟩ := best success
  obtain rfl : same = plan := by
    rw [isPlan] at returned
    exact Option.some.inj returned
  obtain ⟨fallbacks, destinations, participants⟩ := copied same returned
  constructor
  case served =>
    simp only [CommunicationRequest.routes, CommunicationPlan.executedPaths,
      multicast, List.forall₂_map_left_iff]
    exact served
  case fallbacks => simp [fallbacks]
  case destinations => rw [destinations, if_pos multicast]
  case participants => simp [participants]

/--
A collective has no fallbacks, and takes its participants from the request.
-/
theorem copied_buildCollectivePlan :
    Ensures (buildCollectivePlan request snapshot weights bounds)
      fun outcome =>
        ∀ plan, outcome.plan = some plan →
          plan.fallbackPaths = [] ∧
            plan.multicastDestinations = [] ∧
            plan.collectiveParticipants = request.participants := by
  refine Ensures.bind Ensures.trivial ?_
  intro id _
  refine Ensures.bind Ensures.trivial ?_
  intro generation _
  simp only
  split
  · exact Ensures.pure (by simp)
  · exact Ensures.throw
  · refine Ensures.bind Ensures.trivial ?_
    rintro ⟨final, unreached⟩ _
    cases unreached with
    | some member =>
        exact Ensures.pure (by simp)
    | none =>
        apply Ensures.pure
        simp only [Option.some.injEq, forall_eq']
        exact ⟨rfl, rfl, rfl⟩

/-- A planned collective executes the best candidate of every route. -/
theorem within_buildCollectivePlan
    (collective : request.effectiveShape = .collective)
    (populated : request.participants ≠ []) :
    Ensures (buildCollectivePlan request snapshot weights bounds)
      fun outcome =>
        outcome.success = true →
        ∀ plan, outcome.plan = some plan →
          PlannedWithin request snapshot weights bounds plan := by
  obtain ⟨root, others, participants⟩ := List.exists_cons_of_ne_nil populated
  refine ((ensures_buildCollectivePlan_best participants).and
    copied_buildCollectivePlan).weaken ?_
  rintro outcome ⟨⟨admits, best⟩, copied⟩ success plan returned
  obtain ⟨same, isPlan, served⟩ := best success
  obtain rfl : same = plan := by
    rw [isPlan] at returned
    exact Option.some.inj returned
  obtain ⟨fallbacks, destinations, sameParticipants⟩ := copied same returned
  obtain ⟨counted, bounded, _⟩ :=
    participantRejection_eq_none_iff.mp (admits.mp success).1
  constructor
  case served =>
    simp only [CommunicationRequest.routes, CommunicationPlan.executedPaths,
      collective, participants, List.head?_cons, Option.toList_some,
      List.flatMap_singleton, List.forall₂_map_left_iff]
    rw [participants] at served
    exact served
  case fallbacks => simp [fallbacks]
  case destinations => rw [destinations, if_neg (by simp [collective])]
  case participants =>
    rw [sameParticipants, ← counted]
    exact UInt32.le_iff_toNat_le.mp bounded

/-- A transfer has neither multicast destinations nor participants. -/
theorem copied_planPointToPoint :
    Ensures (planPointToPoint request snapshot weights bounds)
      fun outcome =>
        ∀ plan, outcome.plan = some plan →
          plan.multicastDestinations = [] ∧
            plan.collectiveParticipants = [] := by
  refine ensures_pointToPoint_assembled (fun _ => Ensures.trivial) ?_
  intro _ id generation total rejected paths _ _
  exact ⟨rfl, rfl⟩

/-- A transfer has one route. -/
theorem routes_of_single
    {others : List EndpointId}
    (notMulticast : request.effectiveShape ≠ .multicast)
    (notCollective : request.effectiveShape ≠ .collective)
    (destinations : request.destinations = destination :: others) :
    request.routes = [(request.source, destination)] := by
  unfold CommunicationRequest.routes
  split
  · contradiction
  · contradiction
  · simp [destinations]

/-- A planned transfer executes the best candidate of its route. -/
theorem within_planPointToPoint
    (notMulticast : request.effectiveShape ≠ .multicast)
    (notCollective : request.effectiveShape ≠ .collective) :
    Ensures (planPointToPoint request snapshot weights bounds)
      fun outcome =>
        outcome.success = true →
        ∀ plan, outcome.plan = some plan →
          PlannedWithin request snapshot weights bounds plan := by
  cases destinations : request.destinations with
  | nil =>
      unfold planPointToPoint
      rw [destinations]
      exact Ensures.throw
  | cons destination others =>
      refine ((ensures_planPointToPoint_ranking destinations).and
        (ensures_planPointToPoint.and copied_planPointToPoint)).weaken ?_
      rintro outcome ⟨⟨ranked, described⟩, planned, copied⟩ success plan returned
      obtain ⟨same, isPlan, _, order, built⟩ := described success
      obtain rfl : same = plan := by
        rw [isPlan] at returned
        exact Option.some.inj returned
      obtain ⟨notFannedOut, notCollected⟩ := copied same returned
      have executed :=
        (planned success same returned).executedPaths_of_single notMulticast
          notCollective
      have routes := routes_of_single notMulticast notCollective destinations
      obtain ⟨best, rest, ranking⟩ :=
        List.exists_cons_of_ne_nil (ranked.mp success)
      rw [ranking] at built
      constructor
      case served =>
        rw [Nat.add_comm, List.take_succ_cons] at built
        obtain ⟨primary, fallbacks, fromBest, _, paths⟩ :=
          List.forall₂_cons_left_iff.mp built
        rw [executed, routes, paths]
        exact .cons ⟨best, rest, ranking, fromBest⟩ .nil
      case fallbacks =>
        have count := congrArg List.length order
        have retained := built.length_eq
        rw [List.length_cons, List.length_map] at count
        rw [List.length_take] at retained
        omega
      case destinations => rw [notFannedOut, if_neg notMulticast]
      case participants => simp [notCollected]

/-- Whatever is planned executes the best candidate of every route. -/
theorem within_planCommunication :
    Ensures (planCommunication request snapshot weights bounds)
      fun outcome =>
        outcome.success = true →
        ∀ plan, outcome.plan = some plan →
          PlannedWithin request snapshot weights bounds plan := by
  refine ensures_planCommunication_by_shape ?_ ?_ ?_
  · intro _ multicast
    exact within_buildMulticastPlan multicast
  · intro valid collective
    exact within_buildCollectivePlan collective
      (participants_of_collective valid collective)
  · intro notMulticast notCollective
    exact within_planPointToPoint notMulticast notCollective

/-! ## What is staged on the routes -/

/-- The staging that a plan asks for is that of the best candidates. -/
theorem mem_requiredStagingResources_iff
    (within : PlannedWithin request snapshot weights bounds plan)
    (claimed :
      ClaimsStaging plan (plan.executedPaths request.effectiveShape))
    (staged : ∀ path ∈ plan.candidatePaths, path.StagesInRelays)
    (resource : ResourceId) :
    resource ∈ plan.requiredStagingResources ↔
      StagedOnRoute request snapshot weights bounds resource := by
  rw [claimed.exact]
  constructor
  · rintro ⟨notNull, path, executed, staging⟩
    obtain ⟨route, isRoute, best, rest, ranking, built⟩ :=
      exists_of_mem_of_forall₂ within.served executed
    have relays :=
      (staged path (executedPaths_subset _ executed) resource notNull).mp
        staging
    rw [built.hops] at relays
    exact ⟨route, isRoute, best.path, bestCandidate_of_ranking ranking,
      relays⟩
  · rintro ⟨route, isRoute, candidate, isBest, hop, relayed, rfl⟩
    have notNull : (stagingResourceFor hop.target).isNull = false := by
      rw [← Bool.not_eq_true, Id.isNull_iff]
      exact stagingResourceFor_ne_null hop.target
    obtain ⟨path, executed, best, rest, ranking, built⟩ :=
      exists_of_mem_of_forall₂ within.served.flip isRoute
    obtain rfl : candidate = best.path :=
      isBest.unique (bestCandidate_of_ranking ranking)
    rw [← built.hops] at relayed
    exact ⟨notNull, path, executed,
      (staged path (executedPaths_subset _ executed) _ notNull).mpr
        ⟨hop, relayed, rfl⟩⟩

/-! ## Bounds on the plan and on its inputs -/

/-- Only a request without a route is planned without a path. -/
theorem candidatePaths_eq_nil_iff_routes
    (planned : Planned request snapshot weights bounds plan)
    (within : PlannedWithin request snapshot weights bounds plan) :
    plan.candidatePaths = [] ↔ request.routes = [] := by
  rw [← planned.executedPaths_eq_nil_iff request.effectiveShape,
    ← List.length_eq_zero_iff, ← within.served.length_eq,
    List.length_eq_zero_iff]

/-- A plan within the bounds was made from inputs within them. -/
theorem inputsWithinBounds_of_respects
    (planned : Planned request snapshot weights bounds plan)
    (within : PlannedWithin request snapshot weights bounds plan)
    (required :
      ∀ resource, resource ∈ plan.requiredStagingResources ↔
        StagedOnRoute request snapshot weights bounds resource)
    (respects : plan.RespectsBounds snapshot bounds) :
    InputsWithinBounds request snapshot weights bounds := by
  constructor
  case fanout =>
    intro multicast
    have fanout := respects.fanout
    rwa [within.destinations, if_pos multicast] at fanout
  case staging =>
    intro resources distinct isStaged
    refine le_trans ?_ respects.staging
    refine (distinct.subperm ?_).length_le
    intro resource member
    exact (required resource).mpr (isStaged resource member)
  case payload =>
    intro isRouted
    obtain ⟨path, member⟩ :=
      List.exists_mem_of_ne_nil _
        (mt (candidatePaths_eq_nil_iff_routes planned within).mp isRouted)
    obtain ⟨_, _, _, _, _, built⟩ := planned.paths.chosen path member
    rw [← built.totalPayload]
    exact (respects.payload path member).1
  case endpoints => exact respects.endpoints
  case links => exact respects.links

/-- From inputs within the bounds a plan within them is made. -/
theorem respectsBounds_of_inputs
    (planned : Planned request snapshot weights bounds plan)
    (within : PlannedWithin request snapshot weights bounds plan)
    (distinct : plan.requiredStagingResources.Nodup)
    (required :
      ∀ resource, resource ∈ plan.requiredStagingResources ↔
        StagedOnRoute request snapshot weights bounds resource)
    (inputs : InputsWithinBounds request snapshot weights bounds) :
    plan.RespectsBounds snapshot bounds := by
  constructor
  case depth =>
    intro path member
    obtain ⟨_, _, _, _, chosen, built⟩ := planned.paths.chosen path member
    rw [built.length_stages]
    exact chosen.path.depth
  case relays =>
    intro path member
    obtain ⟨_, _, _, _, chosen, built⟩ := planned.paths.chosen path member
    rw [built.length_stages]
    exact chosen.path.relays
  case fallbacks => exact within.fallbacks
  case fanout =>
    rw [within.destinations]
    split_ifs with multicast
    · exact inputs.fanout multicast
    · exact Nat.zero_le _
  case participants => exact within.participants
  case staging =>
    refine inputs.staging _ distinct ?_
    intro resource member
    exact (required resource).mp member
  case payload =>
    intro path member
    have isRouted : request.routes ≠ [] :=
      mt (candidatePaths_eq_nil_iff_routes planned within).mpr
        (List.ne_nil_of_mem member)
    have small := inputs.payload isRouted
    obtain ⟨_, _, _, _, _, built⟩ := planned.paths.chosen path member
    constructor
    · rw [built.totalPayload]
      exact small
    · intro stage inPath
      rw [built.payloads stage inPath]
      exact small
  case endpoints => exact inputs.endpoints
  case links => exact inputs.links

end

/--
A plan respects every declared bound exactly when the inputs respect those that
nothing enforces: on the fan-out, the staging resources, the payload, and the
size of the snapshot.
-/
theorem plan_respects_bounds_iff
    (request : CommunicationRequest)
    (snapshot : EvidenceSnapshot)
    (weights : RankingWeights)
    (bounds : Bounds)
    {before after : Counters}
    {outcome : PlanOutcome}
    {plan : CommunicationPlan}
    (ran :
      (planCommunication request snapshot weights bounds).run before =
        .ok (outcome, after))
    (success : outcome.success = true)
    (returned : outcome.plan = some plan) :
    plan.RespectsBounds snapshot bounds ↔
      InputsWithinBounds request snapshot weights bounds := by
  have planned : Planned request snapshot weights bounds plan :=
    ensures_planCommunication _ _ _ ran success plan returned
  have within : PlannedWithin request snapshot weights bounds plan :=
    within_planCommunication _ _ _ ran success plan returned
  have claimed := claims_planCommunication _ _ _ ran success plan returned
  have staged :=
    ensures_planCommunication_of_makePath stagesInRelays_makePath _ _ _ ran
      success plan returned
  have required :=
    mem_requiredStagingResources_iff within claimed staged
  exact ⟨inputsWithinBounds_of_respects planned within required,
    respectsBounds_of_inputs planned within claimed.distinct required⟩

/-- The plan over the row of three devices respects the bounds, or not. -/
theorem plan_on_stagedRow_respects_bounds_iff :
    ∃ outcome after plan,
      (planCommunication (mkRequest ⟨5⟩ ⟨1⟩ ⟨3⟩ 4096) stagedRow {} {}).run {} =
        .ok (outcome, after) ∧
      outcome.plan = some plan ∧
      (plan.RespectsBounds stagedRow {} ↔
        InputsWithinBounds (mkRequest ⟨5⟩ ⟨1⟩ ⟨3⟩ 4096) stagedRow {} {}) := by
  obtain ⟨outcome, after, plan, ran, success, returned, _⟩ :=
    exists_plan_on_stagedRow
  exact ⟨outcome, after, plan, ran, returned,
    plan_respects_bounds_iff _ _ _ _ ran success returned⟩

/-- Bounds that the multicast exceeds wherever nothing enforces them. -/
def tightBounds : Bounds :=
  { maxEndpoints := 2
    maxLinks := 1
    maxMulticastFanout := 1
    maxStagingPerPlan := 0
    maxPayloadBytes := 4095 }

/-- The multicast is planned beyond every bound that nothing enforces. -/
theorem multicast_exceeds_declared_bounds :
    (∃ outcome after plan,
      (planCommunication rowMulticast stagedRow {} tightBounds).run {} =
        .ok (outcome, after) ∧
      outcome.success = true ∧
      outcome.plan = some plan ∧
      tightBounds.maxMulticastFanout.toNat <
        plan.multicastDestinations.length ∧
      tightBounds.maxStagingPerPlan.toNat <
        plan.requiredStagingResources.length ∧
      ∃ path ∈ plan.candidatePaths,
        tightBounds.maxPayloadBytes < path.totalPayload.count) ∧
    tightBounds.maxEndpoints.toNat < stagedRow.endpoints.length ∧
    tightBounds.maxLinks.toNat < stagedRow.links.length := by
  refine ⟨?_, by decide, by decide⟩
  have checked :
      ((planCommunication rowMulticast stagedRow {} tightBounds).run
        {}).toOption.any (fun result =>
          result.1.success && result.1.plan.any fun plan =>
            tightBounds.maxMulticastFanout.toNat <
                plan.multicastDestinations.length &&
              tightBounds.maxStagingPerPlan.toNat <
                plan.requiredStagingResources.length &&
              plan.candidatePaths.any fun path =>
                tightBounds.maxPayloadBytes < path.totalPayload.count) =
        true := by
    decide +kernel
  obtain ⟨outcome, after, plan, ran, success, returned, exceeds⟩ :=
    exists_plan_of_run checked
  simp only [Bool.and_eq_true, decide_eq_true_eq, List.any_eq_true]
    at exceeds
  obtain ⟨⟨fanout, staging⟩, payload⟩ := exceeds
  exact ⟨outcome, after, plan, ran, success, returned, fanout, staging,
    payload⟩

end CommunicationPlanner
