import CommunicationPlanner.ExactNaturals
import CommunicationPlanner.PlannerDeterminism
import CommunicationPlanner.WireRoundTrip

namespace CommunicationPlanner

open OrderedCollections Allocation ByteCodec

/-!
# Planning with what travelled

The coordinator plans with the requests and the evidence that came out of a
frame.  Not every field travels; for the others the planner reads the defaults.
The sections say which of these differences a planner can see.
-/

/-! ## Requests

Seven fields of a request do not travel, and nothing reads them: neither the
validation nor the hard filter, the cost or one of the builders.
-/

namespace CommunicationRequest

variable
  (request : CommunicationRequest)
  (snapshot : EvidenceSnapshot)
  (weights : RankingWeights)
  (bounds : Bounds)

@[simp] theorem rejection_transmitted :
    request.transmitted.rejection = request.rejection :=
  rfl

@[simp] theorem effectiveShape_transmitted :
    request.transmitted.effectiveShape = request.effectiveShape :=
  rfl

@[simp] theorem evaluateCandidateFeasibility_transmitted
    (candidate : CandidatePath) :
    evaluateCandidateFeasibility request.transmitted snapshot candidate
        bounds =
      evaluateCandidateFeasibility request snapshot candidate bounds :=
  rfl

@[simp] theorem evaluateCandidateCost_transmitted
    (candidate : CandidatePath) :
    evaluateCandidateCost request.transmitted snapshot candidate weights =
      evaluateCandidateCost request snapshot candidate weights :=
  rfl

@[simp] theorem assess_transmitted
    (source destination : EndpointId) :
    assess request.transmitted snapshot weights bounds source destination =
      assess request snapshot weights bounds source destination :=
  rfl

@[simp] theorem buildStages_transmitted
    (links : Map LinkId Link)
    (hops : List Hop) :
    buildStages request.transmitted links hops =
      buildStages request links hops := by
  induction hops with
  | nil =>
      rfl
  | cons hop rest inductionHypothesis =>
      simp only [buildStages, inductionHypothesis]
      rfl

@[simp] theorem makePath_transmitted
    (id : PathId)
    (candidate : CandidatePath)
    (cost : CostSummary) :
    makePath id candidate snapshot request.transmitted cost =
      makePath id candidate snapshot request cost := by
  simp only [makePath, buildStages_transmitted]
  rfl

@[simp] theorem makePaths_transmitted
    (built : Nat)
    (retained : List (CandidatePath × CostSummary)) :
    makePaths snapshot request.transmitted built retained =
      makePaths snapshot request built retained := by
  induction retained generalizing built with
  | nil =>
      rfl
  | cons chosen rest inductionHypothesis =>
      simp only [makePaths, makePath_transmitted, inductionHypothesis]

@[simp] theorem multicastStep_transmitted
    (state : MulticastState)
    (destination : EndpointId) :
    multicastStep request.transmitted snapshot weights bounds state
        destination =
      multicastStep request snapshot weights bounds state destination := by
  simp only [multicastStep, assess_transmitted, makePath_transmitted]
  rfl

@[simp] theorem collectiveLoop_transmitted
    (root : EndpointId)
    (members : List EndpointId)
    (state : CollectiveState) :
    collectiveLoop request.transmitted snapshot weights bounds root members
        state =
      collectiveLoop request snapshot weights bounds root members state := by
  induction members generalizing state with
  | nil =>
      rfl
  | cons member rest inductionHypothesis =>
      simp only [collectiveLoop, assess_transmitted, makePath_transmitted,
        inductionHypothesis]

/-- The planner does not notice which fields were lost. -/
theorem planCommunication_transmitted :
    planCommunication request.transmitted snapshot weights bounds =
      planCommunication request snapshot weights bounds := by
  have pointToPoint :
      planPointToPoint request.transmitted snapshot weights bounds =
        planPointToPoint request snapshot weights bounds := by
    simp only [planPointToPoint, assess_transmitted, makePaths_transmitted]
    rfl
  have multicast :
      buildMulticastPlan request.transmitted snapshot weights bounds =
        buildMulticastPlan request snapshot weights bounds := by
    have steps :
        multicastStep request.transmitted snapshot weights bounds =
          multicastStep request snapshot weights bounds := by
      funext state destination
      exact multicastStep_transmitted request snapshot weights bounds state
        destination
    simp only [buildMulticastPlan, steps]
    rfl
  have collective :
      buildCollectivePlan request.transmitted snapshot weights bounds =
        buildCollectivePlan request snapshot weights bounds := by
    simp only [buildCollectivePlan, collectiveLoop_transmitted]
    rfl
  simp only [planCommunication, rejection_transmitted,
    effectiveShape_transmitted, pointToPoint, multicast, collective]

/--
A request comes out of its frame as one that is planned alike, on every
snapshot: the same exception, or outcomes that differ in fresh identities only.
-/
theorem received_request_is_planned_alike
    {request : CommunicationRequest}
    (fits : request.Fits) :
    ∃ received,
      Reads decRequest (encRequest request) received ∧
      ∀ snapshot weights bounds,
        Agrees (SameUpTo PlanOutcome.anonymous)
          (planCommunication received snapshot weights bounds)
          (planCommunication request snapshot weights bounds) := by
  refine ⟨request.transmitted, reads_decRequest fits, ?_⟩
  intro snapshot weights bounds
  rw [planCommunication_transmitted]
  exact agrees_planCommunication

/-- A request that asks for four things its frame does not mention. -/
def demandingRequest : CommunicationRequest :=
  { mkRequest ⟨5⟩ ⟨1⟩ ⟨2⟩ 4096 with
    latencySensitive := true
    requireOrdering := true
    maxMovementCost := some ⟨1⟩
    reservationBinding := some ⟨3⟩ }

theorem received_demandingRequest_is_planned_alike :
    demandingRequest.Fits ∧
    ∃ received,
      Reads decRequest (encRequest demandingRequest) received ∧
      ∀ snapshot weights bounds,
        Agrees (SameUpTo PlanOutcome.anonymous)
          (planCommunication received snapshot weights bounds)
          (planCommunication demandingRequest snapshot weights bounds) := by
  have fits : demandingRequest.Fits :=
    { destinations := by decide
      participants := by decide
      provenance := by decide
      requiredFailureDomain := by decide
      preferredLocality := by decide }
  exact ⟨fits, received_request_is_planned_alike fits⟩

end CommunicationRequest

/-! ## Evidence

Of an endpoint the network interface does not travel, and a negative NUMA
distance travels as zero.  The hard filter reads neither; the cost reads both.
-/

/-- The endpoint as it arrives, whatever its distance. -/
def Endpoint.arrived (endpoint : Endpoint) : Endpoint :=
  endpoint.settled.received

namespace Endpoint

variable (endpoint : Endpoint)

/-- The kind of an endpoint is transmitted. -/
@[simp] theorem kind_arrived :
    endpoint.arrived.kind = endpoint.kind :=
  rfl

@[simp] theorem reachable_arrived :
    endpoint.arrived.reachable = endpoint.reachable :=
  rfl

@[simp] theorem ready_arrived :
    endpoint.arrived.ready = endpoint.ready :=
  rfl

@[simp] theorem worker_arrived :
    endpoint.arrived.worker = endpoint.worker :=
  rfl

@[simp] theorem workerBoot_arrived :
    endpoint.arrived.workerBoot = endpoint.workerBoot :=
  rfl

@[simp] theorem source_arrived :
    endpoint.arrived.source = endpoint.source :=
  rfl

@[simp] theorem sourceBoot_arrived :
    endpoint.arrived.sourceBoot = endpoint.sourceBoot :=
  rfl

@[simp] theorem supports_arrived
    (transport : Transport) :
    endpoint.arrived.capability.supports transport =
      endpoint.capability.supports transport :=
  rfl

end Endpoint

/-- The strings of an endpoint are short. -/
structure Endpoint.Short (endpoint : Endpoint) : Prop where
  address : endpoint.address.length ≤ kMaxCount
  protocol : endpoint.protocol.length ≤ kMaxCount
  version : endpoint.version.length ≤ kMaxCount
  name : endpoint.name.length ≤ kMaxCount
  failureDomain : endpoint.failureDomain.length ≤ kMaxCount
  pcieRoot : endpoint.location.pcieRoot.length ≤ kMaxCount

/-- An endpoint with short strings is read as the endpoint that arrives. -/
theorem reads_decEndpoint_arrived
    {endpoint : Endpoint}
    (short : endpoint.Short) :
    Reads decEndpoint (encEndpoint endpoint) endpoint.arrived := by
  rw [← encEndpoint_settled]
  apply reads_decEndpoint
  exact
    { address := short.address
      protocol := short.protocol
      version := short.version
      name := short.name
      failureDomain := short.failureDomain
      pcieRoot := short.pcieRoot
      numaDistance := endpoint.numaDistance_settled }

namespace EvidenceSnapshot

/-- The snapshot of the records as they arrive. -/
def arrived (snapshot : EvidenceSnapshot) : EvidenceSnapshot :=
  { snapshot with
    endpoints := snapshot.endpoints.map Endpoint.arrived
    links := snapshot.links.map Link.transmitted }

/-- The strings of the records are short. -/
structure Short (snapshot : EvidenceSnapshot) : Prop where
  endpoints : ∀ endpoint ∈ snapshot.endpoints, endpoint.Short
  links : ∀ link ∈ snapshot.links, link.failureDomain.length ≤ kMaxCount

/-- The records of the second snapshot are those of the first, as decoded. -/
structure Transported (snapshot received : EvidenceSnapshot) : Prop where
  endpoints :
    List.Forall₂
      (fun endpoint decoded =>
        Reads decEndpoint (encEndpoint endpoint) decoded)
      snapshot.endpoints received.endpoints
  links :
    List.Forall₂
      (fun link decoded => Reads decLink (encLink link) decoded)
      snapshot.links received.links
  others :
    received =
      { snapshot with
        endpoints := received.endpoints
        links := received.links }

/-- Records with short strings arrive. -/
theorem Short.transported
    {snapshot : EvidenceSnapshot}
    (short : snapshot.Short) :
    snapshot.Transported snapshot.arrived where
  endpoints := by
    rw [arrived, List.forall₂_map_right_iff, List.forall₂_same]
    intro endpoint member
    exact reads_decEndpoint_arrived (short.endpoints endpoint member)
  links := by
    rw [arrived, List.forall₂_map_right_iff, List.forall₂_same]
    intro link member
    exact reads_decLink (short.links link member)
  others := rfl

variable (snapshot : EvidenceSnapshot)

@[simp] theorem getElem?_endpointMap_arrived
    (id : EndpointId) :
    snapshot.arrived.endpointMap[id]? =
      snapshot.endpointMap[id]?.map Endpoint.arrived :=
  getElem?_indexBy_map (fun endpoint : Endpoint => endpoint.id)
    Endpoint.arrived
    (fun _ => rfl) snapshot.endpoints id

@[simp] theorem getElem?_linkMap_arrived
    (id : LinkId) :
    snapshot.arrived.linkMap[id]? =
      snapshot.linkMap[id]?.map Link.transmitted :=
  getElem?_indexBy_map (fun link : Link => link.id) Link.transmitted
    (fun _ => rfl) snapshot.links id

/-! ### The hard filter -/

@[simp] theorem relayRejection_arrived
    (request : CommunicationRequest)
    (relay : EndpointId) :
    relayRejection request snapshot.arrived.endpointMap relay =
      relayRejection request snapshot.endpointMap relay := by
  unfold relayRejection
  rw [getElem?_endpointMap_arrived]
  cases snapshot.endpointMap[relay]? with
  | none =>
      rfl
  | some endpoint =>
      rfl

/-- An endpoint is refused as it was before it was sent. -/
theorem endpointRejection_arrived
    (transport : Transport)
    (endpoint : Endpoint) :
    endpointRejection snapshot.arrived transport endpoint.arrived =
      endpointRejection snapshot transport endpoint := by
  have fresh :
      endpointFresh endpoint.arrived snapshot.arrived =
        endpointFresh endpoint snapshot := by
    simp only [endpointFresh, arrived, Endpoint.worker_arrived,
      Endpoint.workerBoot_arrived, Endpoint.source_arrived,
      Endpoint.sourceBoot_arrived]
  unfold endpointRejection
  rw [fresh, Endpoint.reachable_arrived, Endpoint.ready_arrived,
    Endpoint.kind_arrived, Endpoint.supports_arrived]

@[simp] theorem hopRejection_arrived
    (request : CommunicationRequest)
    (hop : Hop) :
    hopRejection request snapshot.arrived snapshot.arrived.endpointMap
        snapshot.arrived.linkMap hop =
      hopRejection request snapshot snapshot.endpointMap snapshot.linkMap
        hop := by
  unfold hopRejection
  rw [getElem?_linkMap_arrived]
  cases snapshot.linkMap[hop.link]? with
  | none =>
      rfl
  | some link =>
      simp only [Option.map_some]
      unfold linkRejection
      rw [getElem?_endpointMap_arrived, getElem?_endpointMap_arrived]
      cases snapshot.endpointMap[hop.source]? with
      | none =>
          rfl
      | some source =>
          cases snapshot.endpointMap[hop.target]? with
          | none =>
              rfl
          | some target =>
              simp only [Option.map_some, List.findSome?_cons,
                endpointRejection_arrived]
              rfl

/-- The hard filter decides alike on what arrived. -/
theorem evaluateCandidateFeasibility_arrived
    (request : CommunicationRequest)
    (candidate : CandidatePath)
    (bounds : Bounds) :
    evaluateCandidateFeasibility request snapshot.arrived candidate bounds =
      evaluateCandidateFeasibility request snapshot candidate bounds := by
  have shape :
      shapeRejection request snapshot.arrived.endpointMap candidate bounds =
        shapeRejection request snapshot.endpointMap candidate bounds := by
    unfold shapeRejection
    simp only [relayRejection_arrived]
  have hops :
      hopRejection request snapshot.arrived snapshot.arrived.endpointMap
          snapshot.arrived.linkMap =
        hopRejection request snapshot snapshot.endpointMap
          snapshot.linkMap := by
    funext hop
    exact hopRejection_arrived snapshot request hop
  unfold evaluateCandidateFeasibility
  simp only [shape, hops]
  rfl

end EvidenceSnapshot

/-! ### The cost of a NUMA distance -/

/-- A small natural number passes the clamp. -/
theorem clampCost_of_isNat
    {value : Double}
    {number : Nat}
    (isNumber : value.IsNat number)
    (small : number < 2 ^ 53) :
    clampCost value = value := by
  have zeroNumber : (0.0 : Double).isNaN = false := by decide +kernel
  have limitNumber : kMaxCost.isNaN = false := by decide +kernel
  have notNegative : value.less 0.0 = false := by
    rw [Bool.eq_false_iff, Ne, Binary64.less_iff_rank isNumber.isNaN zeroNumber,
      not_lt]
    have zeroRank :
        (0.0 : Double).rank = toLex (0, toLex (0, 0)) := by
      decide +kernel
    rw [zeroRank]
    exact isNumber.zero_le_rank
  have notLarge : kMaxCost.less value = false := by
    rw [Bool.eq_false_iff, Ne,
      Binary64.less_iff_rank limitNumber isNumber.isNaN, not_lt]
    have above : toLex (1, toLex (1, 0)) < kMaxCost.rank := by
      decide +kernel
    exact le_of_lt ((isNumber.rank_lt small).trans above)
  simp [clampCost, isNumber.isNaN, isNumber.isInf, notNegative, notLarge]

/--
How far two distances lie apart, in the arithmetic of `int`; the difference
that has no absolute value is charged as none.
-/
def numaGap (source target : Int32) : Nat :=
  (target - source).abs.toInt.toNat

/-- Only the least integer has a negative absolute value, itself. -/
theorem abs_cases
    (difference : Int32) :
    difference.abs = Int32.minValue ∨ 0 ≤ difference.abs.toInt := by
  by_cases least : difference = Int32.minValue
  · left
    subst least
    decide
  · right
    have notLeast : difference.toBitVec ≠ BitVec.intMin 32 := by
      intro same
      exact least (Int32.toBitVec_inj.mp same)
    have magnitude :
        difference.abs.toInt = (difference.toBitVec.toInt.natAbs : Int) :=
      BitVec.toInt_abs_eq_natAbs_of_ne_intMin notLeast
    omega

/-- A gap is below `2 ^ 31`. -/
theorem numaGap_lt
    (source target : Int32) :
    numaGap source target < 2 ^ 31 := by
  have below := Int32.toInt_lt (target - source).abs
  unfold numaGap
  omega

/-- The charge for a distance depends on how far its ends lie apart. -/
theorem numaCharge_eq
    (source target : Int32) :
    clampCost (Binary64.ofInt32 (target - source).abs * 200.0) =
      clampCost (Binary64.ofUInt64 (UInt64.ofNat (numaGap source target)) *
        200.0) := by
  rcases abs_cases (target - source) with least | notNegative
  · have noGap : numaGap source target = 0 := by
      rw [numaGap, least]
      decide
    rw [least, noGap]
    decide +kernel
  · have notBelow : ¬ (target - source).abs < 0 := by
      rw [Int32.lt_iff_toInt_lt]
      exact Int.not_lt.mpr notNegative
    have size :
        (target - source).abs.toInt.natAbs = numaGap source target := by
      unfold numaGap
      omega
    simp only [Binary64.ofInt32, if_neg notBelow, size]

/-- A distance is charged two hundred for each step, exactly. -/
theorem isNat_numaCharge
    (source target : Int32) :
    (clampCost (Binary64.ofInt32 (target - source).abs * 200.0)).IsNat
      (numaGap source target * 200) := by
  have small := numaGap_lt source target
  have isGap :
      (Binary64.ofUInt64 (UInt64.ofNat (numaGap source target))).IsNat
        (numaGap source target) := by
    have size :
        (UInt64.ofNat (numaGap source target)).toNat =
          numaGap source target := by
      rw [UInt64.toNat_ofNat']
      omega
    have short :
        (UInt64.ofNat (numaGap source target)).toNat < 2 ^ 53 := by
      omega
    have isSize := Binary64.isNat_ofUInt64 short
    rwa [size] at isSize
  have isFactor : (200.0 : Double).IsNat 200 := by
    have factor : (200.0 : Double) = Binary64.ofUInt64 200 := by
      decide +kernel
    rw [factor]
    exact Binary64.isNat_ofUInt64 (by decide)
  have isProduct := isGap.mul isFactor (by omega) (by omega) (by omega)
  rw [numaCharge_eq, clampCost_of_isNat isProduct (by omega)]
  exact isProduct

/-- Distances that are charged alike lie equally far apart. -/
theorem numaGap_eq_of_numaCharge_eq
    {source target otherSource otherTarget : Int32}
    (same :
      clampCost (0.0 + clampCost
          (Binary64.ofInt32 (target - source).abs * 200.0)) =
        clampCost (0.0 + clampCost
          (Binary64.ofInt32 (otherTarget - otherSource).abs * 200.0))) :
    numaGap source target = numaGap otherSource otherTarget := by
  have isZero : (0.0 : Double).IsNat 0 := by
    have zero : (0.0 : Double) = Binary64.ofUInt64 0 := by decide +kernel
    rw [zero]
    exact Binary64.isNat_ofUInt64 (by decide)
  have charged :
      ∀ first second : Int32,
        (clampCost (0.0 + clampCost
          (Binary64.ofInt32 (second - first).abs * 200.0))).IsNat
            (numaGap first second * 200) := by
    intro first second
    have small := numaGap_lt first second
    have isSum :=
      isZero.zero_add (isNat_numaCharge first second) (by omega)
    rw [clampCost_of_isNat isSum (by omega)]
    exact isSum
  have isCharge := charged source target
  rw [same] at isCharge
  have equal := isCharge.unique (charged otherSource otherTarget)
  omega

/-! ### The cost of a path -/

/-- What arrives of two endpoints tells as much about their distance. -/
structure LocalityArrives (source target : Endpoint) : Prop where
  nic : source.location.nic = target.location.nic
  numaDistance :
    numaGap source.settled.location.numaDistance
        target.settled.location.numaDistance =
      numaGap source.location.numaDistance target.location.numaDistance

/-- Where the distance arrives, the locality costs the same. -/
theorem addLocality_arrived
    {source target : Endpoint}
    (arrives : LocalityArrives source target)
    (costs : HopCosts)
    (payload : UInt64) :
    costs.addLocality payload source.arrived target.arrived =
      costs.addLocality payload source target := by
  have charge :
      clampCost (Binary64.ofInt32
          (target.settled.location.numaDistance -
            source.settled.location.numaDistance).abs * 200.0) =
        clampCost (Binary64.ofInt32
          (target.location.numaDistance -
            source.location.numaDistance).abs * 200.0) := by
    rw [numaCharge_eq, numaCharge_eq, arrives.numaDistance]
  have notCharged :
      (if source.location.nic ≠ target.location.nic then
          costs.nic + clampCost (Binary64.ofUInt64 payload * 2e-6)
        else
          costs.nic) = costs.nic :=
    if_neg (not_not.mpr arrives.nic)
  unfold HopCosts.addLocality
  dsimp only
  rw [notCharged, ← charge]
  rfl

namespace EvidenceSnapshot

/-- The known hops of the candidate follow their links. -/
def IsPath (snapshot : EvidenceSnapshot) (candidate : CandidatePath) : Prop :=
  ∀ hop ∈ candidate.hops, ∀ link : Link,
    snapshot.linkMap[hop.link]? = some link →
      hop.source = link.source ∧ hop.target = link.destination

/-- The ends of every link, where both are known, keep their distance. -/
def DistancesArrive (snapshot : EvidenceSnapshot) : Prop :=
  ∀ (id : LinkId) (link : Link) (source target : Endpoint),
    snapshot.linkMap[id]? = some link →
    snapshot.endpointMap[link.source]? = some source →
    snapshot.endpointMap[link.destination]? = some target →
      LocalityArrives source target

variable {snapshot : EvidenceSnapshot}

/-- Where the distances arrive, a hop costs the same. -/
theorem addHop_arrived
    (arrive : snapshot.DistancesArrive)
    {hop : Hop}
    (follows :
      ∀ link, snapshot.linkMap[hop.link]? = some link →
        hop.source = link.source ∧ hop.target = link.destination)
    (payload : UInt64)
    (costs : HopCosts) :
    HopCosts.addHop payload snapshot.arrived.endpointMap
        snapshot.arrived.linkMap costs hop =
      HopCosts.addHop payload snapshot.endpointMap snapshot.linkMap costs
        hop := by
  unfold HopCosts.addHop
  simp only [getElem?_linkMap_arrived, getElem?_endpointMap_arrived]
  cases linkFound : snapshot.linkMap[hop.link]? with
  | none =>
      rfl
  | some link =>
      obtain ⟨fromSource, toDestination⟩ := follows link linkFound
      cases sourceFound : snapshot.endpointMap[hop.source]? with
      | none =>
          rfl
      | some source =>
          cases targetFound : snapshot.endpointMap[hop.target]? with
          | none =>
              rfl
          | some target =>
              have arrives : LocalityArrives source target := by
                rw [fromSource] at sourceFound
                rw [toDestination] at targetFound
                exact arrive hop.link link source target linkFound
                  sourceFound targetFound
              simp only [Option.map_some, addLocality_arrived arrives]
              rfl

/-- A path costs the same when the distances of its links arrive. -/
theorem evaluateCandidateCost_arrived
    (arrive : snapshot.DistancesArrive)
    {candidate : CandidatePath}
    (path : snapshot.IsPath candidate)
    (request : CommunicationRequest)
    (weights : RankingWeights) :
    evaluateCandidateCost request snapshot.arrived candidate weights =
      evaluateCandidateCost request snapshot candidate weights := by
  have costs :
      candidate.hops.foldl
          (HopCosts.addHop request.payloadSize.count
            snapshot.arrived.endpointMap snapshot.arrived.linkMap) {} =
        candidate.hops.foldl
          (HopCosts.addHop request.payloadSize.count snapshot.endpointMap
            snapshot.linkMap) {} := by
    apply List.foldl_ext
    intro costs hop member
    exact addHop_arrived arrive (path hop member) _ costs
  have kinds :
      interiorKinds snapshot.arrived.endpointMap candidate.hops =
        interiorKinds snapshot.endpointMap candidate.hops := by
    unfold interiorKinds
    congr 1
    funext hop
    rw [getElem?_endpointMap_arrived, Option.map_map]
    rfl
  unfold evaluateCandidateCost
  simp only [costs, kinds]

/-- The candidate that is one link. -/
def across (id : LinkId) (link : Link) : CandidatePath :=
  { source := link.source
    destination := link.destination
    hops := [⟨id, link.source, link.destination⟩] }

/-- The one hop over a link is a path. -/
theorem isPath_across
    {id : LinkId}
    {link : Link}
    (linkFound : snapshot.linkMap[id]? = some link) :
    snapshot.IsPath (across id link) := by
  intro hop member found foundLink
  have only : hop = ⟨id, link.source, link.destination⟩ := by
    simpa [across] using member
  subst only
  have same : link = found := by
    simpa [linkFound] using foundLink
  subst same
  exact ⟨rfl, rfl⟩

/-- The locality factors of a candidate that is one link. -/
theorem components_across
    {id : LinkId}
    {link : Link}
    {source target : Endpoint}
    (linkFound : snapshot.linkMap[id]? = some link)
    (sourceFound : snapshot.endpointMap[link.source]? = some source)
    (targetFound : snapshot.endpointMap[link.destination]? = some target)
    (request : CommunicationRequest)
    (weights : RankingWeights) :
    let components :=
      (evaluateCandidateCost request snapshot (across id link)
        weights).components
    components[9]? =
        some
          ⟨.numaDistance, weights.weightOf .numaDistance,
            clampCost (0.0 + clampCost
              (Binary64.ofInt32
                (target.location.numaDistance -
                  source.location.numaDistance).abs * 200.0)),
            .derived⟩ ∧
      components[11]? =
        some
          ⟨.nicLocality, weights.weightOf .nicLocality,
            clampCost
              (if source.location.nic ≠ target.location.nic then
                0.0 + clampCost
                  (Binary64.ofUInt64 request.payloadSize.count * 2e-6)
              else
                0.0),
            .derived⟩ := by
  have costed :
      (across id link).hops.foldl
          (HopCosts.addHop request.payloadSize.count snapshot.endpointMap
            snapshot.linkMap) {} =
        HopCosts.addHop request.payloadSize.count snapshot.endpointMap
          snapshot.linkMap {} ⟨id, link.source, link.destination⟩ :=
    rfl
  unfold evaluateCandidateCost
  dsimp only
  rw [costed]
  unfold HopCosts.addHop
  simp only [linkFound, sourceFound, targetFound]
  exact ⟨rfl, rfl⟩

/--
When every path costs the same, the distances of the links arrive: one byte over
each link alone tells.
-/
theorem distancesArrive_of_cost_eq
    (same :
      ∀ request candidate weights,
        snapshot.IsPath candidate →
          evaluateCandidateCost request snapshot.arrived candidate weights =
            evaluateCandidateCost request snapshot candidate weights) :
    snapshot.DistancesArrive := by
  intro id link source target linkFound sourceFound targetFound
  have equal :=
    same { payloadSize := ⟨1⟩ } (across id link) {} (isPath_across linkFound)
  obtain ⟨numa, nic⟩ :=
    components_across linkFound sourceFound targetFound
      { payloadSize := ⟨1⟩ } {}
  have arrivedLink :
      snapshot.arrived.linkMap[id]? = some link.transmitted := by
    rw [getElem?_linkMap_arrived, linkFound]
    rfl
  have arrivedSource :
      snapshot.arrived.endpointMap[link.transmitted.source]? =
        some source.arrived := by
    rw [getElem?_endpointMap_arrived]
    exact congrArg (Option.map Endpoint.arrived) sourceFound
  have arrivedTarget :
      snapshot.arrived.endpointMap[link.transmitted.destination]? =
        some target.arrived := by
    rw [getElem?_endpointMap_arrived]
    exact congrArg (Option.map Endpoint.arrived) targetFound
  obtain ⟨arrivedNuma, arrivedNic⟩ :=
    components_across arrivedLink arrivedSource arrivedTarget
      { payloadSize := ⟨1⟩ } {}
  have sameCandidate : across id link.transmitted = across id link := rfl
  rw [sameCandidate, equal] at arrivedNuma arrivedNic
  constructor
  · by_contra different
    have unseen :
        ¬ source.arrived.location.nic ≠ target.arrived.location.nic :=
      not_not.mpr rfl
    rw [nic, if_pos different, if_neg unseen] at arrivedNic
    have values := congrArg (Option.map CostComponent.value) arrivedNic
    simp only [Option.map_some, Option.some.injEq] at values
    revert values
    decide +kernel
  · rw [numa] at arrivedNuma
    have values := congrArg (Option.map CostComponent.value) arrivedNuma
    have charges := Option.some.inj values
    exact (numaGap_eq_of_numaCharge_eq charges).symm

/-- The two snapshots are filtered and costed alike on every path. -/
def EvaluatedAlike (snapshot received : EvidenceSnapshot) : Prop :=
  ∀ request candidate weights bounds,
    snapshot.IsPath candidate →
      evaluateCandidateFeasibility request received candidate bounds =
          evaluateCandidateFeasibility request snapshot candidate bounds ∧
        evaluateCandidateCost request received candidate weights =
          evaluateCandidateCost request snapshot candidate weights

/-- Evidence is evaluated alike exactly when its distances arrive. -/
theorem evaluatedAlike_arrived_iff :
    snapshot.EvaluatedAlike snapshot.arrived ↔ snapshot.DistancesArrive := by
  constructor
  · intro alike
    apply distancesArrive_of_cost_eq
    intro request candidate weights path
    exact (alike request candidate weights {} path).2
  · intro arrive request candidate weights bounds path
    exact
      ⟨evaluateCandidateFeasibility_arrived snapshot request candidate bounds,
        evaluateCandidateCost_arrived arrive path request weights⟩

/--
Published evidence is evaluated as it was observed, on every path, exactly
when no link joins two network interfaces or endpoints whose distance a
negative reading changes.
-/
theorem received_evidence_is_evaluated_alike_iff
    (short : snapshot.Short) :
    ∃ received,
      snapshot.Transported received ∧
      (snapshot.EvaluatedAlike received ↔ snapshot.DistancesArrive) :=
  ⟨snapshot.arrived, short.transported, evaluatedAlike_arrived_iff⟩

/-- A device behind a network interface. -/
def deviceBehind
    (id : EndpointId)
    (nic : NicId)
    (numaDistance : Int32) : Endpoint :=
  { mkEndpoint id ⟨1⟩ .gpuDevice .rdma with
    location := { nic, numaDistance, provenance := .measured } }

/-- Two devices behind the given network interfaces, joined by a link. -/
def linkedDevices (first second : NicId) : EvidenceSnapshot :=
  { endpoints := [deviceBehind ⟨1⟩ first 2, deviceBehind ⟨2⟩ second 5]
    links := [mkLink ⟨7⟩ ⟨1⟩ ⟨1⟩ ⟨2⟩ .rdma 10000000000] }

/-- The texts of the devices are within the limit. -/
theorem short_linkedDevices
    (first second : NicId) :
    (linkedDevices first second).Short where
  endpoints := by
    have short :
        ∀ id nic numaDistance, (deviceBehind id nic numaDistance).Short := by
      intro id nic numaDistance
      exact
        { address := Nat.zero_le _
          protocol := Nat.zero_le _
          version := Nat.zero_le _
          name := Nat.zero_le _
          failureDomain := Nat.zero_le _
          pcieRoot := Nat.zero_le _ }
    intro endpoint member
    simp only [linkedDevices, List.mem_cons, List.not_mem_nil,
      or_false] at member
    rcases member with rfl | rfl
    · exact short _ _ _
    · exact short _ _ _
  links := by
    intro link member
    simp only [linkedDevices, List.mem_singleton] at member
    subst member
    exact Nat.zero_le _

/-- Behind one interface nothing is lost that the evaluators read. -/
theorem received_neighbours_are_evaluated_alike :
    (linkedDevices ⟨3⟩ ⟨3⟩).Short ∧
    ∃ received,
      (linkedDevices ⟨3⟩ ⟨3⟩).Transported received ∧
      (linkedDevices ⟨3⟩ ⟨3⟩).EvaluatedAlike received := by
  have arrive : (linkedDevices ⟨3⟩ ⟨3⟩).DistancesArrive := by
    intro id link source target linkFound sourceFound targetFound
    obtain ⟨linkMember, _⟩ := mem_of_getElem?_indexBy linkFound
    obtain ⟨sourceMember, sourceId⟩ := mem_of_getElem?_indexBy sourceFound
    obtain ⟨targetMember, targetId⟩ := mem_of_getElem?_indexBy targetFound
    simp only [linkedDevices, List.mem_cons, List.not_mem_nil,
      or_false] at linkMember sourceMember targetMember
    subst linkMember
    rcases sourceMember with rfl | rfl
    · rcases targetMember with rfl | rfl
      · cases targetId
      · exact ⟨rfl, by decide⟩
    · cases sourceId
  obtain ⟨received, transported, alike⟩ :=
    received_evidence_is_evaluated_alike_iff (short_linkedDevices ⟨3⟩ ⟨3⟩)
  exact
    ⟨short_linkedDevices ⟨3⟩ ⟨3⟩, received, transported, alike.mpr arrive⟩

/-- A link between two interfaces arrives as one behind a single interface. -/
theorem received_interfaces_cost_less :
    (linkedDevices ⟨1⟩ ⟨2⟩).Short ∧
    ∃ received,
      (linkedDevices ⟨1⟩ ⟨2⟩).Transported received ∧
      ∃ candidate,
        (linkedDevices ⟨1⟩ ⟨2⟩).IsPath candidate ∧
        (evaluateCandidateCost (mkRequest ⟨5⟩ ⟨1⟩ ⟨2⟩ 1000000) received
            candidate {}).total.less
          (evaluateCandidateCost (mkRequest ⟨5⟩ ⟨1⟩ ⟨2⟩ 1000000)
            (linkedDevices ⟨1⟩ ⟨2⟩) candidate {}).total = true := by
  have short := short_linkedDevices ⟨1⟩ ⟨2⟩
  have known :
      (linkedDevices ⟨1⟩ ⟨2⟩).linkMap[(⟨7⟩ : LinkId)]? =
        some (mkLink ⟨7⟩ ⟨1⟩ ⟨1⟩ ⟨2⟩ .rdma 10000000000) :=
    getElem?_indexBy_of_mem (by decide) (List.mem_singleton.mpr rfl)
  refine ⟨short, _, short.transported, _, isPath_across known, ?_⟩
  decide +kernel

end EvidenceSnapshot

end CommunicationPlanner
