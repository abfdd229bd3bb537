import CommunicationPlanner.Allocation
import CommunicationPlanner.PathEnumeration
import CommunicationPlanner.Ranking

namespace CommunicationPlanner

open OrderedCollections

/-!
# Construction of plans

`planCommunication` dispatches on the shape of a request to the point-to-point,
multicast and collective builders.  All three enumerate candidates, filter
them, cost and rank the feasible ones, and turn the selected candidates into
paths of stages that are bound to the generations of the evidence they rest on.

Plan identities, plan generations and stage identities come from process-wide
counters, so a builder is a computation over `Counters`.  It may throw: a
malformed request throws `ComError`, and looking up a missing link or
destination throws `std::out_of_range`.
-/

/-- The next values of the identity allocators. -/
structure Counters where
  plan : UInt64 := 1
  planGeneration : UInt64 := 1
  stage : UInt64 := 1

/-- What the planner may throw. -/
inductive PlannerException where
  | comError (detail : Text)
  | outOfRange

/-- A computation that draws identities and may throw. -/
abbrev Planner := Allocation.Computation Counters PlannerException

/-- `CommunicationPlanId::next`. -/
def nextPlanId : Planner CommunicationPlanId :=
  modifyGet fun counters =>
    (⟨counters.plan⟩, { counters with plan := counters.plan + 1 })

/-- `CommunicationPlanGeneration`, drawn from its counter. -/
def nextPlanGeneration : Planner CommunicationPlanGeneration :=
  modifyGet fun counters =>
    (⟨counters.planGeneration⟩,
      { counters with planGeneration := counters.planGeneration + 1 })

/-- `StageId::next`. -/
def nextStageId : Planner StageId :=
  modifyGet fun counters =>
    (⟨counters.stage⟩, { counters with stage := counters.stage + 1 })

/-! ## Stages and paths -/

/-- `stagingResourceFor`, in 64 bits that wrap around. -/
def stagingResourceFor (relay : EndpointId) : ResourceId :=
  ⟨relay.value * 2 + 1⟩

/-- The stage of one hop; all but the last one stage the payload at a relay. -/
def buildStage
    (request : CommunicationRequest)
    (link : Link)
    (hop : Hop)
    (relayed : Bool)
    (id : StageId) : Stage :=
  { id := id
    generation := ⟨1⟩
    source := hop.source
    destination := hop.target
    link := hop.link
    transport := link.transport
    payload := request.payloadSize
    expectedBandwidth :=
      if link.effectiveBandwidth.count ≠ 0 then
        link.effectiveBandwidth
      else
        link.capacity
    expectedLatency := link.latency
    stagingResource :=
      if relayed then stagingResourceFor hop.target else ⟨0⟩
    requiresAuthority := true
    provenance := link.provenance
    description :=
      link.transport.name ++ ascii " " ++ hop.source.str ++ ascii "->" ++
        hop.target.str }

/-- The stages of the hops, each looked up by `at`. -/
def buildStages
    (request : CommunicationRequest)
    (links : Map LinkId Link) :
    List Hop → Planner (List Stage)
  | [] => pure []
  | hop :: rest =>
      match links[hop.link]? with
      | none => throw .outOfRange
      | some link => do
          let id ← nextStageId
          let later ← buildStages request links rest
          pure (buildStage request link hop (!rest.isEmpty) id :: later)

/-- `makePath`. -/
def makePath
    (id : PathId)
    (candidate : CandidatePath)
    (snapshot : EvidenceSnapshot)
    (request : CommunicationRequest)
    (cost : CostSummary) : Planner Path := do
  let stages ← buildStages request snapshot.linkMap candidate.hops
  pure
    { id := id
      generation := ⟨1⟩
      source := candidate.source
      destination := candidate.destination
      stages := stages
      totalPayload := request.payloadSize
      cost := cost
      provenance := worstProvenance cost }

/-! ## Assessment of the candidates between two endpoints -/

/-- `CandidateReport`: a candidate, its verdict and its cost. -/
structure CandidateReport where
  path : CandidatePath
  feasibility : FeasibilityResult
  cost : CostSummary := {}
  detail : Text
  provenance : Provenance

/-- `PlanOutcome`: whether there is a plan, and what was considered. -/
structure PlanOutcome where
  success : Bool := false
  plan : Option CommunicationPlan := none
  candidates : List CandidateReport := []
  rankedIndices : List Nat := []
  explanations : List Text := []

/-- The report on one candidate. -/
def candidateReport
    (request : CommunicationRequest)
    (snapshot : EvidenceSnapshot)
    (weights : RankingWeights)
    (bounds : Bounds)
    (candidate : CandidatePath) : CandidateReport :=
  let feasibility :=
    evaluateCandidateFeasibility request snapshot candidate bounds
  if feasibility.feasible then
    let cost := evaluateCandidateCost request snapshot candidate weights
    { path := candidate
      feasibility := feasibility
      cost := cost
      detail := feasibility.detail
      provenance := worstProvenance cost }
  else
    { path := candidate
      feasibility := feasibility
      detail := feasibility.detail
      provenance := .unknown }

/-- The working data of one enumeration: positions refer to `candidates`. -/
structure Assessment where
  candidates : List CandidatePath
  reports : List CandidateReport
  rankables : List Rankable
  feasibleOrig : List Nat
  rankOrder : List Nat

/-- Enumerate, filter, cost and rank the candidates between two endpoints. -/
def assess
    (request : CommunicationRequest)
    (snapshot : EvidenceSnapshot)
    (weights : RankingWeights)
    (bounds : Bounds)
    (source destination : EndpointId) : Assessment :=
  let candidates := enumerateCandidatePaths snapshot source destination bounds
  let reports := candidates.map (candidateReport request snapshot weights bounds)
  let rankables :=
    (reports.filter fun report => report.feasibility.feasible).map
      fun report => ⟨report.path, report.feasibility, report.cost⟩
  let feasibleOrig := reports.zipIdx.filterMap fun (report, index) =>
    if report.feasibility.feasible then some index else none
  { candidates := candidates
    reports := reports
    rankables := rankables
    feasibleOrig := feasibleOrig
    rankOrder := rankFeasible rankables }

/-! ## Bindings -/

/-- The identities and generations of the links that are known. -/
def boundLinks
    (links : Map LinkId Link)
    (used : List LinkId) : List (LinkId × LinkGeneration) :=
  orderedPairs (used.filterMap fun id =>
    links[id]?.map fun link => (link.id, link.generation))

/-- The identities and generations of the endpoints that are known. -/
def boundEndpoints
    (endpoints : Map EndpointId Endpoint)
    (used : List EndpointId) : List (EndpointId × EndpointGeneration) :=
  orderedPairs (used.filterMap fun id =>
    endpoints[id]?.map fun endpoint => (endpoint.id, endpoint.generation))

/-- Bind the authority-sensitive generations of the snapshot. -/
def CommunicationPlan.bindSnapshot
    (plan : CommunicationPlan)
    (snapshot : EvidenceSnapshot) : CommunicationPlan :=
  { plan with
    topologyGeneration := snapshot.topologyGeneration
    capacityGeneration := snapshot.capacityGeneration
    reservationGeneration := snapshot.reservationGeneration
    congestionGeneration := snapshot.congestionGeneration
    capabilityGeneration := snapshot.capabilityGeneration
    healthGeneration := snapshot.healthGeneration
    placementGeneration := snapshot.placementGeneration
    authorityGeneration := snapshot.authorityGeneration }

/-- The bindings and claims of the stages of several paths. -/
def CommunicationPlan.bindGenerations
    (plan : CommunicationPlan)
    (snapshot : EvidenceSnapshot) : CommunicationPlan :=
  let stages := plan.candidatePaths.flatMap fun path => path.stages
  let claims := orderedSet
    ((stages.map fun stage => stage.stagingResource).filter fun resource =>
      !resource.isNull)
  { plan with
    endpointGenerations :=
      boundEndpoints snapshot.endpointMap
        (stages.flatMap fun stage => [stage.source, stage.destination])
    linkGenerations :=
      boundLinks snapshot.linkMap (stages.map fun stage => stage.link)
    requiredStagingResources := claims
    requiredResourceClaims := claims }

/-- The name of the worst provenance of a finite cost. -/
def costProvenance (cost : CostSummary) : Text :=
  if cost.totalValid then (worstProvenance cost).name else ascii "UNKNOWN"

/-! ## Point to point -/

/-- The loop that builds the retained paths, numbered from one. -/
def makePaths
    (snapshot : EvidenceSnapshot)
    (request : CommunicationRequest) :
    (built : Nat) →
    List (CandidatePath × CostSummary) →
    Planner (List Path)
  | _, [] => pure []
  | built, (candidate, cost) :: rest => do
      let path ←
        makePath ⟨UInt64.ofNat (built + 1)⟩ candidate snapshot request cost
      let later ← makePaths snapshot request (built + 1) rest
      pure (path :: later)

/-- The positions of the feasible candidates, best first. -/
def Assessment.orderOrig (assessment : Assessment) : List Nat :=
  assessment.rankOrder.filterMap (assessment.feasibleOrig[·]?)

/-- The first `total` candidates of the ranking with their costs. -/
def Assessment.retained
    (assessment : Assessment)
    (total : Nat) : List (CandidatePath × CostSummary) :=
  ((assessment.orderOrig.zip assessment.rankOrder).take total).filterMap
    fun (original, ranked) => do
      let candidate ← assessment.candidates[original]?
      let rankable ← assessment.rankables[ranked]?
      pure (candidate, rankable.cost)

/--
The plan over the retained candidates and their paths; the first is primary.
-/
def pointToPointPlan
    (request : CommunicationRequest)
    (snapshot : EvidenceSnapshot)
    (id : CommunicationPlanId)
    (generation : CommunicationPlanGeneration)
    (retained : List (CandidatePath × CostSummary))
    (paths : List Path)
    (total rejected : Nat) : CommunicationPlan :=
  let hops := retained.flatMap fun (candidate, _) => candidate.hops
  let primary := paths.head?
  let stages := (primary.map fun path => path.stages).getD []
  let cost := (primary.map fun path => path.cost).getD {}
  let claims := orderedSet
    ((retained.head?.map fun (candidate, _) =>
      candidate.hops.dropLast.map fun hop =>
        stagingResourceFor hop.target).getD [])
  let provenance := costProvenance cost
  CommunicationPlan.bindSnapshot
    { id := id
      generation := generation
      requestId := request.id
      requestGeneration := request.generation
      shape := .pointToPoint
      feasibility := .feasible
      candidatePaths := paths
      primaryPath := (primary.map fun path => path.id).getD ⟨0⟩
      fallbackPaths := paths.tail.map fun path => path.id
      orderedStages := stages
      cost := cost
      endpointGenerations :=
        boundEndpoints snapshot.endpointMap
          (hops.flatMap fun hop => [hop.source, hop.target])
      linkGenerations :=
        boundLinks snapshot.linkMap (hops.map fun hop => hop.link)
      requiredStagingResources := claims
      requiredResourceClaims := claims
      provenance := provenance
      revalidationGeneration := ⟨1⟩
      revalidateBeforeExecute := true
      handoffRequirement :=
        ascii "revalidate all bound generations before execution handoff"
      explanations :=
        [ ascii "Selected the feasible path with the lowest expected cost.",
          ascii "Primary path stages: " ++ decimal stages.length,
          ascii "Feasible candidate paths retained: " ++ decimal total,
          ascii "Total candidates rejected by hard filters: " ++
            decimal rejected,
          ascii "Cost provenance: " ++ provenance ] }
    snapshot

/-- The part of `planCommunication` for one source and one destination. -/
def planPointToPoint
    (request : CommunicationRequest)
    (snapshot : EvidenceSnapshot)
    (weights : RankingWeights)
    (bounds : Bounds) : Planner PlanOutcome :=
  match request.destinations with
  | [] => throw .outOfRange
  | destination :: _ => do
      let assessment :=
        assess request snapshot weights bounds request.source destination
      let orderOrig := assessment.orderOrig
      if orderOrig = [] then
        pure
          { success := false
            candidates := assessment.reports
            rankedIndices := orderOrig
            explanations :=
              [ascii "No feasible path meets all hard constraints."] }
      else
        let total :=
          1 + min bounds.maxFallbacks.toNat (orderOrig.length - 1)
        let retained := assessment.retained total
        let id ← nextPlanId
        let generation ← nextPlanGeneration
        let paths ← makePaths snapshot request 0 retained
        pure
          { success := true
            plan :=
              some (pointToPointPlan request snapshot id generation retained
                paths total (assessment.candidates.length - total))
            candidates := assessment.reports
            rankedIndices := orderOrig }

/-! ## Multicast -/

/-- The position of the best candidate, if any is feasible. -/
def Assessment.bestLocal (assessment : Assessment) : Option Nat := do
  let first ← assessment.rankOrder.head?
  assessment.feasibleOrig[first]?

/-- What the loop over the destinations gathers. -/
structure MulticastState where
  candidatePaths : List Path := []
  primaryPath : PathId := ⟨0⟩
  reports : List CandidateReport := []
  ranked : List Nat := []
  comps : List CostComponent := []
  explanations : List Text := []
  anyFail : Bool := false

/-- One destination of a multicast. -/
def multicastStep
    (request : CommunicationRequest)
    (snapshot : EvidenceSnapshot)
    (weights : RankingWeights)
    (bounds : Bounds)
    (state : MulticastState)
    (destination : EndpointId) : Planner MulticastState :=
  let assessment :=
    assess request snapshot weights bounds request.source destination
  let reports := state.reports ++ assessment.reports
  let best := do
    let bestLocal ← assessment.bestLocal
    let candidate ← assessment.candidates[bestLocal]?
    let report ← reports[state.reports.length + bestLocal]?
    pure (bestLocal, candidate, report.cost)
  match best with
  | none =>
      pure
        { state with
          reports := reports
          anyFail := true
          explanations := state.explanations ++
            [ascii "Destination " ++ destination.str ++
              ascii " has no feasible path; multicast cannot be satisfied."] }
  | some (bestLocal, candidate, cost) => do
      let path ←
        makePath ⟨UInt64.ofNat (state.candidatePaths.length + 1)⟩ candidate
          snapshot request cost
      pure
        { state with
          reports := reports
          ranked := state.ranked ++ [state.reports.length + bestLocal]
          candidatePaths := state.candidatePaths ++ [path]
          comps := state.comps ++ cost.components
          primaryPath :=
            if state.primaryPath.isNull then path.id
            else state.primaryPath }

/-- `buildMulticastPlan`: a path to each destination. -/
def buildMulticastPlan
    (request : CommunicationRequest)
    (snapshot : EvidenceSnapshot)
    (weights : RankingWeights)
    (bounds : Bounds) : Planner PlanOutcome := do
  let id ← nextPlanId
  let generation ← nextPlanGeneration
  let final ←
    request.destinations.foldlM
      (multicastStep request snapshot weights bounds) {}
  let cost := CostSummary.ofComponents final.comps
  let plan : CommunicationPlan :=
    { id := id
      generation := generation
      requestId := request.id
      requestGeneration := request.generation
      shape := .multicast
      multicastDestinations := request.destinations
      feasibility := if final.anyFail then .rejectEndpoint else .feasible
      candidatePaths := final.candidatePaths
      primaryPath := final.primaryPath
      orderedStages :=
        (final.candidatePaths.head?.map fun path => path.stages).getD []
      cost := cost
      provenance := costProvenance cost
      revalidationGeneration := ⟨1⟩
      revalidateBeforeExecute := true
      explanations := final.explanations }
  pure
    { success := !final.anyFail
      plan := some ((plan.bindGenerations snapshot).bindSnapshot snapshot)
      candidates := final.reports
      rankedIndices := final.ranked
      explanations :=
        if final.anyFail then
          [ascii
            "Multicast plan rejected: one or more destinations infeasible."]
        else
          [] }

/-! ## Collectives -/

/-- Why a collective is refused before any path is sought. -/
def participantRejection
    (request : CommunicationRequest)
    (snapshot : EvidenceSnapshot)
    (bounds : Bounds) : Option Text :=
  if request.collectiveCount.toNat ≠ request.participants.length then
    some (ascii "Collective participant count does not match participant set.")
  else if bounds.maxCollectiveParticipants < request.collectiveCount then
    some (ascii "Collective participant count exceeds bound.")
  else
    request.participants.findSome? fun participant =>
      match snapshot.endpointMap[participant]? with
      | none =>
          some (ascii "Missing collective participant " ++ participant.str ++
            ascii ".")
      | some endpoint =>
          if !endpointFresh endpoint snapshot || !endpoint.reachable ||
              !endpoint.ready || endpoint.kind = .unknown then
            some (ascii "Collective participant " ++ participant.str ++
              ascii " not current/readable.")
          else
            none

/-- What the loop over the members gathers. -/
structure CollectiveState where
  candidatePaths : List Path := []
  ranked : List Nat := []
  comps : List CostComponent := []

/-- The loop over the members; it stops at the first one without a path. -/
def collectiveLoop
    (request : CommunicationRequest)
    (snapshot : EvidenceSnapshot)
    (weights : RankingWeights)
    (bounds : Bounds)
    (root : EndpointId) :
    List EndpointId →
    CollectiveState →
    Planner (CollectiveState × Option EndpointId)
  | [], state => pure (state, none)
  | member :: rest, state =>
      if member = root then
        collectiveLoop request snapshot weights bounds root rest state
      else
        let assessment :=
          assess request snapshot weights bounds root member
        let best := do
          let first ← assessment.rankOrder.head?
          let original ← assessment.feasibleOrig[first]?
          let candidate ← assessment.candidates[original]?
          let rankable ← assessment.rankables[first]?
          pure (candidate, rankable.cost)
        match best with
        | none => pure (state, some member)
        | some (candidate, cost) => do
            let path ←
              makePath ⟨UInt64.ofNat (state.candidatePaths.length + 1)⟩
                candidate snapshot request cost
            collectiveLoop request snapshot weights bounds root rest
              { candidatePaths := state.candidatePaths ++ [path]
                ranked := state.ranked ++ [state.candidatePaths.length]
                comps := state.comps ++ cost.components }

/-- `buildCollectivePlan`: a path from the root to each member. -/
def buildCollectivePlan
    (request : CommunicationRequest)
    (snapshot : EvidenceSnapshot)
    (weights : RankingWeights)
    (bounds : Bounds) : Planner PlanOutcome := do
  let id ← nextPlanId
  let generation ← nextPlanGeneration
  let plan : CommunicationPlan :=
    { id := id
      generation := generation
      requestId := request.id
      requestGeneration := request.generation
      shape := .collective
      collectiveShape := request.collectiveShape
      collectiveParticipants := request.participants }
  let refused (plan : CommunicationPlan) (why : Text) : PlanOutcome :=
    { success := false
      plan :=
        some { plan with
          feasibility := .rejectEndpoint
          explanations := [why] } }
  match participantRejection request snapshot bounds, request.participants with
  | some why, _ => pure (refused plan why)
  | none, [] => throw .outOfRange
  | none, root :: _ =>
      let (final, unreached) ←
        collectiveLoop request snapshot weights bounds root
          request.participants {}
      let plan := { plan with candidatePaths := final.candidatePaths }
      match unreached with
      | some member =>
          pure (refused plan
            (ascii "No feasible path between collective participants " ++
              root.str ++ ascii " and " ++ member.str ++ ascii "."))
      | none =>
          let cost := CostSummary.ofComponents final.comps
          let plan : CommunicationPlan :=
            { plan with
              orderedStages :=
                (final.candidatePaths.head?.map fun path =>
                  path.stages).getD []
              cost := cost
              primaryPath :=
                (final.candidatePaths.head?.map fun path => path.id).getD ⟨0⟩
              provenance := costProvenance cost
              revalidationGeneration := ⟨1⟩
              revalidateBeforeExecute := true
              feasibility := .feasible
              explanations :=
                [ ascii "Collective shape: " ++ request.collectiveShape.name,
                  ascii "Participants: " ++
                    decimal request.participants.length,
                  ascii "Feasible root-to-member paths: " ++
                    decimal final.candidatePaths.length,
                  ascii ("Collective scheduling is the responsibility of " ++
                    "the Collective Scheduler.") ] }
          pure
            { success := true
              plan :=
                some ((plan.bindGenerations snapshot).bindSnapshot snapshot)
              rankedIndices := final.ranked }

/-! ## Dispatch -/

/-- `planCommunication`: check the request, then plan by its shape. -/
def planCommunication
    (request : CommunicationRequest)
    (snapshot : EvidenceSnapshot)
    (weights : RankingWeights)
    (bounds : Bounds) : Planner PlanOutcome :=
  match request.rejection with
  | some why =>
      throw (.comError (ascii "malformed communication request: " ++ why))
  | none =>
      match request.effectiveShape with
      | .multicast => buildMulticastPlan request snapshot weights bounds
      | .collective => buildCollectivePlan request snapshot weights bounds
      | _ => planPointToPoint request snapshot weights bounds

end CommunicationPlanner
