import CommunicationPlanner.StagedPlans

namespace CommunicationPlanner

open OrderedCollections Allocation

/-!
# What a plan is bound to and what it claims

The bindings of a plan and its claims on staging memory are computed by loops of
their own, over hops for a point-to-point plan and over stages for the others.
They agree with the stages of the plan: the bindings are the endpoints and links
of all candidate paths with their generations in the snapshot, and the claims
are the staging resources of the paths that are to be executed.
-/

namespace CommunicationPlan

/-- The stages of all candidate paths. -/
def allStages (plan : CommunicationPlan) : List Stage :=
  plan.candidatePaths.flatMap fun path => path.stages

/-- An endpoint of some stage of a candidate path. -/
def VisitsEndpoint (plan : CommunicationPlan) (id : EndpointId) : Prop :=
  ∃ stage ∈ plan.allStages, stage.source = id ∨ stage.destination = id

/-- The link of some stage of a candidate path. -/
def RunsOverLink (plan : CommunicationPlan) (id : LinkId) : Prop :=
  ∃ stage ∈ plan.allStages, stage.link = id

/-- The candidate path that is named as the primary one. -/
def primary? (plan : CommunicationPlan) : Option Path :=
  plan.candidatePaths.find? fun path => path.id = plan.primaryPath

/-- The paths to be executed: every one of a fan-out, else the primary one. -/
def executedPaths
    (plan : CommunicationPlan)
    (shape : RequestShape) : List Path :=
  match shape with
  | .multicast | .collective => plan.candidatePaths
  | _ => plan.primary?.toList

end CommunicationPlan

/-- The claims are the staging resources of the paths, each of them once. -/
structure ClaimsStaging
    (plan : CommunicationPlan)
    (paths : List Path) : Prop where
  claims : plan.requiredResourceClaims = plan.requiredStagingResources
  distinct : plan.requiredStagingResources.Nodup
  exact :
    ∀ resource,
      resource ∈ plan.requiredStagingResources ↔
        resource.isNull = false ∧
          ∃ path ∈ paths, ∃ stage ∈ path.stages,
            stage.stagingResource = resource

section

variable
  {request : CommunicationRequest}
  {snapshot : EvidenceSnapshot}
  {weights : RankingWeights}
  {bounds : Bounds}
  {plan : CommunicationPlan}

/-! ## Bindings -/

/-- An endpoint is bound to the generation it has, if it is used and known. -/
theorem mem_boundEndpoints_iff
    {used : List EndpointId}
    {id : EndpointId}
    {generation : EndpointGeneration} :
    (id, generation) ∈ boundEndpoints snapshot.endpointMap used ↔
      id ∈ used ∧
        ∃ endpoint,
          snapshot.endpointMap[id]? = some endpoint ∧
            endpoint.generation = generation := by
  rw [boundEndpoints, mem_orderedPairs, List.mem_filterMap]
  constructor
  · rintro ⟨wanted, inUse, bound⟩
    obtain ⟨endpoint, found, same⟩ := Option.map_eq_some_iff.mp bound
    obtain ⟨rfl, rfl⟩ := Prod.mk.inj same
    obtain rfl := (mem_of_getElem?_indexBy found).2
    exact ⟨inUse, endpoint, found, rfl⟩
  · rintro ⟨inUse, endpoint, found, rfl⟩
    refine ⟨id, inUse, ?_⟩
    rw [found, Option.map_some, (mem_of_getElem?_indexBy found).2]

/-- A link is bound to the generation it has, if it is used and known. -/
theorem mem_boundLinks_iff
    {used : List LinkId}
    {id : LinkId}
    {generation : LinkGeneration} :
    (id, generation) ∈ boundLinks snapshot.linkMap used ↔
      id ∈ used ∧
        ∃ link,
          snapshot.linkMap[id]? = some link ∧
            link.generation = generation := by
  rw [boundLinks, mem_orderedPairs, List.mem_filterMap]
  constructor
  · rintro ⟨wanted, inUse, bound⟩
    obtain ⟨link, found, same⟩ := Option.map_eq_some_iff.mp bound
    obtain ⟨rfl, rfl⟩ := Prod.mk.inj same
    obtain rfl := (mem_of_getElem?_indexBy found).2
    exact ⟨inUse, link, found, rfl⟩
  · rintro ⟨inUse, link, found, rfl⟩
    refine ⟨id, inUse, ?_⟩
    rw [found, Option.map_some, (mem_of_getElem?_indexBy found).2]

/-- No endpoint is bound twice. -/
theorem nodup_map_fst_boundEndpoints
    (used : List EndpointId) :
    ((boundEndpoints snapshot.endpointMap used).map Prod.fst).Nodup := by
  apply nodup_map_fst_orderedPairs
  rintro ⟨id, first⟩ firstMember ⟨_, second⟩ secondMember rfl
  obtain ⟨_, endpoint, found, rfl⟩ :=
    mem_boundEndpoints_iff.mp (mem_orderedPairs.mpr firstMember)
  obtain ⟨_, other, alsoFound, rfl⟩ :=
    mem_boundEndpoints_iff.mp (mem_orderedPairs.mpr secondMember)
  rw [found] at alsoFound
  cases alsoFound
  rfl

/-- No link is bound twice. -/
theorem nodup_map_fst_boundLinks
    (used : List LinkId) :
    ((boundLinks snapshot.linkMap used).map Prod.fst).Nodup := by
  apply nodup_map_fst_orderedPairs
  rintro ⟨id, first⟩ firstMember ⟨_, second⟩ secondMember rfl
  obtain ⟨_, link, found, rfl⟩ :=
    mem_boundLinks_iff.mp (mem_orderedPairs.mpr firstMember)
  obtain ⟨_, other, alsoFound, rfl⟩ :=
    mem_boundLinks_iff.mp (mem_orderedPairs.mpr secondMember)
  rw [found] at alsoFound
  cases alsoFound
  rfl

/-- Whatever a planned plan visits is known to the snapshot. -/
theorem Planned.endpoint_known
    (planned : Planned request snapshot weights bounds plan)
    {id : EndpointId}
    (visited : plan.VisitsEndpoint id) :
    ∃ endpoint, snapshot.endpointMap[id]? = some endpoint := by
  obtain ⟨stage, inStages, atStage⟩ := visited
  obtain ⟨path, inPlan, inPath⟩ := List.mem_flatMap.mp inStages
  obtain ⟨link, source, target, admissible⟩ :=
    planned.hop_admissible inPlan inPath
  rcases atStage with rfl | rfl
  · exact ⟨source, admissible.sourceFound⟩
  · exact ⟨target, admissible.targetFound⟩

/-- A link that a plan runs over is known. -/
theorem Planned.link_known
    (planned : Planned request snapshot weights bounds plan)
    {id : LinkId}
    (used : plan.RunsOverLink id) :
    ∃ link, snapshot.linkMap[id]? = some link := by
  obtain ⟨stage, inStages, rfl⟩ := used
  obtain ⟨path, inPlan, inPath⟩ := List.mem_flatMap.mp inStages
  obtain ⟨link, source, target, admissible⟩ :=
    planned.hop_admissible inPlan inPath
  exact ⟨link, admissible.linkFound⟩

/-- A plan is bound to the endpoints that it visits. -/
theorem Planned.mem_endpointGenerations_iff
    (planned : Planned request snapshot weights bounds plan)
    {id : EndpointId}
    {generation : EndpointGeneration} :
    (id, generation) ∈ plan.endpointGenerations ↔
      plan.VisitsEndpoint id ∧
        ∃ endpoint,
          snapshot.endpointMap[id]? = some endpoint ∧
            endpoint.generation = generation := by
  rw [planned.endpoints, mem_boundEndpoints_iff]
  apply and_congr_left
  intro _
  rw [List.mem_flatMap]
  apply exists_congr
  intro stage
  simp only [CommunicationPlan.allStages, List.mem_cons, List.not_mem_nil,
    or_false, eq_comm]

/-- A plan is bound to the links that it runs over. -/
theorem Planned.mem_linkGenerations_iff
    (planned : Planned request snapshot weights bounds plan)
    {id : LinkId}
    {generation : LinkGeneration} :
    (id, generation) ∈ plan.linkGenerations ↔
      plan.RunsOverLink id ∧
        ∃ link,
          snapshot.linkMap[id]? = some link ∧
            link.generation = generation := by
  rw [planned.links, mem_boundLinks_iff, List.mem_map]
  rfl

/-! ## Claims -/

/-- All stages but the last one stage the payload at their target. -/
theorem resources_buildStages
    (request : CommunicationRequest)
    (links : Map LinkId Link)
    (hops : List Hop) :
    Ensures (buildStages request links hops) fun stages =>
      ∀ resource : ResourceId, resource.isNull = false →
        ((∃ stage ∈ stages, stage.stagingResource = resource) ↔
          ∃ hop ∈ hops.dropLast, stagingResourceFor hop.target = resource) := by
  induction hops with
  | nil =>
      exact Ensures.pure (by simp)
  | cons hop rest inductionHypothesis =>
      unfold buildStages
      cases links[hop.link]? with
      | none =>
          exact Ensures.throw
      | some link =>
          refine Ensures.bind Ensures.trivial ?_
          intro id _
          refine Ensures.bind
            (inductionHypothesis.and (ensures_buildStages request links rest))
            ?_
          rintro later ⟨laterResources, laterHops, _⟩
          apply Ensures.pure
          intro resource notNull
          cases rest with
          | nil =>
              have noLater : later = [] := by
                simpa using laterHops
              have notLast : (⟨0⟩ : ResourceId) ≠ resource := by
                rintro rfl
                cases notNull
              simp [noLater, buildStage, notLast]
          | cons next others =>
              rw [List.dropLast_cons_cons]
              simp only [List.mem_cons, exists_eq_or_imp,
                laterResources resource notNull, buildStage,
                List.isEmpty_cons, Bool.not_false, if_true]

/-- The claims over all stages of the candidate paths. -/
theorem claimsStaging_bindGenerations
    {bare bound : CommunicationPlan}
    (sameClaims :
      bound.requiredResourceClaims =
        (bare.bindGenerations snapshot).requiredResourceClaims)
    (sameResources :
      bound.requiredStagingResources =
        (bare.bindGenerations snapshot).requiredStagingResources) :
    ClaimsStaging bound bare.candidatePaths := by
  refine ⟨by rw [sameClaims, sameResources]; rfl, ?_, ?_⟩
  · rw [sameResources]
    exact nodup_orderedSet _
  · intro resource
    rw [sameResources]
    simp only [CommunicationPlan.bindGenerations, mem_orderedSet,
      List.mem_filter, List.mem_map, List.mem_flatMap, Bool.not_eq_true']
    constructor
    · rintro ⟨⟨stage, ⟨path, inPlan, inPath⟩, same⟩, notNull⟩
      exact ⟨notNull, path, inPlan, stage, inPath, same⟩
    · rintro ⟨notNull, path, inPlan, stage, inPath, same⟩
      exact ⟨⟨stage, ⟨path, inPlan, inPath⟩, same⟩, notNull⟩

/-- A multicast claims staging for all of its paths. -/
theorem claims_buildMulticastPlan :
    Ensures (buildMulticastPlan request snapshot weights bounds)
      fun outcome =>
        ∀ plan, outcome.plan = some plan →
          ClaimsStaging plan plan.candidatePaths := by
  refine ensures_multicast_gathered Ensures.trivial ?_
  intro final bare _ _ _ _
  exact claimsStaging_bindGenerations rfl rfl

/-- A collective claims staging for all of its paths. -/
theorem claims_buildCollectivePlan :
    Ensures (buildCollectivePlan request snapshot weights bounds)
      fun outcome =>
        outcome.success = true →
        ∀ plan, outcome.plan = some plan →
          ClaimsStaging plan plan.candidatePaths := by
  refine ensures_collective_gathered (fun root => Ensures.trivial) ?_
  intro final bare _ _ _ _ _
  exact claimsStaging_bindGenerations rfl rfl

theorem resources_makePath
    (id : PathId)
    (candidate : CandidatePath)
    (cost : CostSummary) :
    Ensures (makePath id candidate snapshot request cost) fun path =>
      ∀ resource : ResourceId, resource.isNull = false →
        ((∃ stage ∈ path.stages, stage.stagingResource = resource) ↔
          ∃ hop ∈ candidate.hops.dropLast,
            stagingResourceFor hop.target = resource) := by
  refine Ensures.bind (resources_buildStages _ _ _) ?_
  intro stages resources
  exact Ensures.pure resources

/-- The first path stages at the relays of the first candidate. -/
theorem resources_makePaths
    (snapshot : EvidenceSnapshot)
    (request : CommunicationRequest)
    (built : Nat)
    (retained : List (CandidatePath × CostSummary)) :
    Ensures (makePaths snapshot request built retained) fun paths =>
      ∀ resource : ResourceId, resource.isNull = false →
        ((∃ path ∈ paths.head?.toList, ∃ stage ∈ path.stages,
            stage.stagingResource = resource) ↔
          ∃ chosen ∈ retained.head?.toList, ∃ hop ∈ chosen.1.hops.dropLast,
            stagingResourceFor hop.target = resource) := by
  cases retained with
  | nil =>
      exact Ensures.pure (by simp)
  | cons chosen rest =>
      unfold makePaths
      refine Ensures.bind (resources_makePath _ _ _) ?_
      intro path resources
      refine Ensures.bind Ensures.trivial ?_
      intro later _
      apply Ensures.pure
      intro resource notNull
      simpa using resources resource notNull

/-- A transfer claims staging for its primary path. -/
theorem claims_planPointToPoint :
    Ensures (planPointToPoint request snapshot weights bounds)
      fun outcome =>
        ∀ plan, outcome.plan = some plan →
          ClaimsStaging plan plan.candidatePaths.head?.toList := by
  refine ensures_pointToPoint_assembled (resources_makePaths _ _ _) ?_
  intro destination id generation total rejected paths _ resources
  refine ⟨rfl, nodup_orderedSet _, ?_⟩
  intro resource
  generalize (assess request snapshot weights bounds request.source
    destination).retained _ = retained at resources
  have staged :
      resource ∈ (pointToPointPlan request snapshot id generation retained
          paths 0 0).requiredStagingResources ↔
        ∃ chosen ∈ retained.head?.toList, ∃ hop ∈ chosen.1.hops.dropLast,
          stagingResourceFor hop.target = resource := by
    cases retained <;>
      simp [pointToPointPlan, CommunicationPlan.bindSnapshot,
        -List.map_dropLast]
  refine Iff.trans staged ?_
  constructor
  · rintro ⟨chosen, first, hop, relayed, rfl⟩
    have notNull : (stagingResourceFor hop.target).isNull = false := by
      rw [← Bool.not_eq_true, Id.isNull_iff]
      exact stagingResourceFor_ne_null hop.target
    exact ⟨notNull, (resources _ notNull).mpr
      ⟨chosen, first, hop, relayed, rfl⟩⟩
  · rintro ⟨notNull, staging⟩
    exact (resources resource notNull).mp staging

/-- The primary path of a planned plan is its first one. -/
theorem Planned.primary?_eq_head?
    (planned : Planned request snapshot weights bounds plan) :
    plan.primary? = plan.candidatePaths.head? := by
  unfold CommunicationPlan.primary?
  rw [planned.primary]
  cases plan.candidatePaths with
  | nil =>
      rfl
  | cons primary fallbacks =>
      simp

/-- Of the retained paths only the primary one is to be executed. -/
theorem Planned.executedPaths_of_single
    (planned : Planned request snapshot weights bounds plan)
    {shape : RequestShape}
    (notMulticast : shape ≠ .multicast)
    (notCollective : shape ≠ .collective) :
    plan.executedPaths shape = plan.candidatePaths.head?.toList := by
  unfold CommunicationPlan.executedPaths
  split
  · contradiction
  · contradiction
  · rw [planned.primary?_eq_head?]

/-- A plan claims staging for the paths that it executes. -/
theorem claims_planCommunication :
    Ensures (planCommunication request snapshot weights bounds)
      fun outcome =>
        outcome.success = true →
        ∀ plan, outcome.plan = some plan →
          ClaimsStaging plan (plan.executedPaths request.effectiveShape) := by
  refine ensures_planCommunication_by_shape ?_ ?_ ?_
  · intro _ multicast
    simp only [CommunicationPlan.executedPaths, multicast]
    exact claims_buildMulticastPlan.weaken fun _ claimed _ => claimed
  · intro _ collective
    simp only [CommunicationPlan.executedPaths, collective]
    exact claims_buildCollectivePlan
  · intro notMulticast notCollective
    refine (claims_planPointToPoint.and ensures_planPointToPoint).weaken ?_
    rintro outcome ⟨claimed, planned⟩ success plan returned
    rw [(planned success plan returned).executedPaths_of_single notMulticast
      notCollective]
    exact claimed plan returned

end

/--
A plan is bound to exactly the endpoints and links of its candidate paths, each
with its one generation in the snapshot, and claims exactly the staging
resources of the paths it is to execute.
-/
theorem planned_bindings_are_exact
    (request : CommunicationRequest)
    (snapshot : EvidenceSnapshot)
    (weights : RankingWeights)
    (bounds : Bounds)
    {before after : Counters}
    {outcome : PlanOutcome}
    {plan : CommunicationPlan}
    (ran :
      (planCommunication request snapshot weights bounds).run before =
        .ok (outcome, after))
    (success : outcome.success = true)
    (returned : outcome.plan = some plan) :
    (∀ id generation,
      (id, generation) ∈ plan.endpointGenerations ↔
        plan.VisitsEndpoint id ∧
          ∃ endpoint,
            snapshot.endpointMap[id]? = some endpoint ∧
              endpoint.generation = generation) ∧
    (∀ id generation,
      (id, generation) ∈ plan.linkGenerations ↔
        plan.RunsOverLink id ∧
          ∃ link,
            snapshot.linkMap[id]? = some link ∧
              link.generation = generation) ∧
    (∀ id, plan.VisitsEndpoint id →
      ∃ endpoint, snapshot.endpointMap[id]? = some endpoint) ∧
    (∀ id, plan.RunsOverLink id →
      ∃ link, snapshot.linkMap[id]? = some link) ∧
    (plan.endpointGenerations.map Prod.fst).Nodup ∧
    (plan.linkGenerations.map Prod.fst).Nodup ∧
    plan.requiredResourceClaims = plan.requiredStagingResources ∧
    plan.requiredStagingResources.Nodup ∧
    ∀ resource,
      resource ∈ plan.requiredStagingResources ↔
        resource.isNull = false ∧
          ∃ path ∈ plan.executedPaths request.effectiveShape,
            ∃ stage ∈ path.stages, stage.stagingResource = resource := by
  have planned : Planned request snapshot weights bounds plan :=
    ensures_planCommunication _ _ _ ran success plan returned
  have claimed := claims_planCommunication _ _ _ ran success plan returned
  refine ⟨fun _ _ => planned.mem_endpointGenerations_iff,
    fun _ _ => planned.mem_linkGenerations_iff,
    fun _ => planned.endpoint_known, fun _ => planned.link_known, ?_, ?_,
    claimed.claims, claimed.distinct, claimed.exact⟩
  · rw [planned.endpoints]
    exact nodup_map_fst_boundEndpoints _
  · rw [planned.links]
    exact nodup_map_fst_boundLinks _

/-- The plan over a relay claims the staging memory of the relay. -/
theorem planned_bindings_on_stagedRow :
    ∃ outcome after plan,
      (planCommunication (mkRequest ⟨5⟩ ⟨1⟩ ⟨3⟩ 4096) stagedRow {} {}).run {} =
        .ok (outcome, after) ∧
      outcome.plan = some plan ∧
      plan.requiredStagingResources = [stagingResourceFor ⟨2⟩] ∧
      plan.requiredResourceClaims = plan.requiredStagingResources := by
  obtain ⟨outcome, after, plan, ran, success, returned, required⟩ :=
    exists_plan_on_stagedRow
  obtain ⟨_, _, _, _, _, _, claims, _⟩ :=
    planned_bindings_are_exact _ _ _ _ ran success returned
  exact ⟨outcome, after, plan, ran, returned, required, claims⟩

end CommunicationPlanner
