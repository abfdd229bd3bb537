import CommunicationPlanner.DataModel
import CommunicationPlanner.OrderedCollections

namespace CommunicationPlanner

open OrderedCollections

/-!
# The hard feasibility filter

`evaluateCandidateFeasibility` is a sequence of early returns: limits on the
number of hops, staging permissions of the interior endpoints, and then, hop by
hop, the facts about the link, its reservations and its two endpoints.  A loop
with an early return is a search for the first rejection.

`Admissible` states what a feasible candidate satisfies, as one structure, and
`evaluateCandidateFeasibility_feasible_iff` says that the filter accepts
exactly the admissible candidates.
-/

namespace EvidenceSnapshot

/-- The endpoints of a snapshot by identity. -/
def endpointMap (snapshot : EvidenceSnapshot) : Map EndpointId Endpoint :=
  indexBy (fun endpoint => endpoint.id) snapshot.endpoints

/-- The links of a snapshot by identity. -/
def linkMap (snapshot : EvidenceSnapshot) : Map LinkId Link :=
  indexBy (fun link => link.id) snapshot.links

end EvidenceSnapshot

/--
The publisher of the endpoint is its worker's and its source's current
incarnation.
-/
def endpointFresh
    (endpoint : Endpoint)
    (snapshot : EvidenceSnapshot) : Bool :=
  (endpoint.workerBoot.isNull ||
    (!endpoint.worker.isNull &&
      snapshot.workerBoots[endpoint.worker]? == some endpoint.workerBoot)) &&
  (endpoint.sourceBoot.isNull ||
    (!endpoint.source.isNull &&
      snapshot.sourceBoots[endpoint.source]? == some endpoint.sourceBoot))

/-- A verdict, and why. -/
structure FeasibilityResult where
  outcome : Feasibility := .unknown
  detail : Text := []

namespace FeasibilityResult

/-- `FeasibilityResult::feasible`. -/
def feasible (result : FeasibilityResult) : Bool :=
  result.outcome = .feasible

/-- The verdict that nothing speaks against. -/
def ok : FeasibilityResult :=
  ⟨.feasible, []⟩

/-- A verdict of a given kind, with its text. -/
def reject (outcome : Feasibility) (detail : String) : FeasibilityResult :=
  ⟨outcome, ascii detail⟩

end FeasibilityResult

/-- `transportAllowed`: what is forbidden goes before what is allowed. -/
def transportAllowed
    (request : CommunicationRequest)
    (transport : Transport) :
    FeasibilityResult :=
  if transport ∈ request.forbidden then
    .reject .rejectTransport "transport is forbidden by request"
  else if request.allowed ≠ ∅ ∧ transport ∉ request.allowed then
    .reject .rejectTransport "transport is not in allowed set"
  else
    .ok

/-- The resource of a link's bandwidth has the number of the link. -/
def linkResource (link : LinkId) : ResourceId :=
  ⟨link.value⟩

/-- The reservations on a resource, summed in 64 bits. -/
def reservedOn
    (snapshot : EvidenceSnapshot)
    (resource : ResourceId) : UInt64 :=
  snapshot.reservations.foldl (fun reserved reservation =>
    if reservation.resource = resource then
      reserved + reservation.reserved.count
    else
      reserved) 0

/-- The kinds of an interior endpoint that stage the payload. -/
def stagingRelay : EndpointKind → Bool
  | .cpuMemory | .pinnedHostMemory | .numaMemory | .storage | .process
  | .service | .cache | .checkpoint | .modelResidency | .stateLocation => true
  | .gpuDevice | .nic | .unknown => false

/-- The staging check of one interior endpoint. -/
def relayRejection
    (request : CommunicationRequest)
    (endpoints : Map EndpointId Endpoint)
    (relay : EndpointId) :
    Option FeasibilityResult :=
  match endpoints[relay]? with
  | none => some (.reject .rejectEndpoint "missing relay endpoint")
  | some endpoint =>
      if stagingRelay endpoint.kind then
        if endpoint.kind = .storage then
          if !request.allowStorageStaging then
            some (.reject .rejectEndpoint
              "storage staging not permitted by request")
          else
            none
        else if !request.allowHostStaging then
          some (.reject .rejectEndpoint
            "host staging not permitted by request")
        else
          none
      else
        none

/-- The checks of one end of a hop. -/
def endpointRejection
    (snapshot : EvidenceSnapshot)
    (transport : Transport)
    (endpoint : Endpoint) :
    Option FeasibilityResult :=
  if !endpointFresh endpoint snapshot then
    some (.reject .rejectStaleEndpoint
      "endpoint published by stale worker/source incarnation")
  else if !endpoint.reachable || !endpoint.ready then
    some (.reject .rejectEndpoint "endpoint not reachable/ready")
  else if endpoint.kind = .unknown then
    some (.reject .rejectEndpoint
      "UNKNOWN endpoint kind cannot satisfy hard readiness")
  else if !endpoint.capability.supports transport then
    some (.reject .rejectCapability
      "endpoint does not support link transport")
  else
    none

/-- The checks of one hop whose link is present. -/
def linkRejection
    (request : CommunicationRequest)
    (snapshot : EvidenceSnapshot)
    (endpoints : Map EndpointId Endpoint)
    (hop : Hop)
    (link : Link) :
    Option FeasibilityResult :=
  if hop.source ≠ link.source ∨ hop.target ≠ link.destination then
    some (.reject .rejectDirection "hop direction mismatch")
  else if !link.directed then
    some (.reject .rejectDirection "link not directed")
  else if !(transportAllowed request link.transport).feasible then
    some (transportAllowed request link.transport)
  else if link.capacity.count = 0 then
    some (.reject .rejectCapacity "link has zero capacity")
  else if link.transport = .unknown then
    some (.reject .rejectTransport "link transport UNKNOWN")
  else if !link.health.healthy then
    some (.reject .rejectHealth "link not healthy")
  else if link.congestion.hardLimitExceeded then
    some (.reject .rejectCongestionHardLimit
      "link congestion hard limit exceeded")
  else if request.requiredFailureDomain ≠ [] ∧
      link.failureDomain ≠ request.requiredFailureDomain then
    some (.reject .rejectFailureDomain
      "link failure domain does not match required")
  else if link.capacity.count ≤
      reservedOn snapshot (linkResource link.id) then
    some (.reject .rejectReservation
      "reservation consumes available link capacity")
  else
    match endpoints[hop.source]?, endpoints[hop.target]? with
    | some source, some target =>
        [source, target].findSome?
          (endpointRejection snapshot link.transport)
    | _, _ =>
        some (.reject .rejectEndpoint "endpoint not present")

/-- The loop over the hops, for one of them. -/
def hopRejection
    (request : CommunicationRequest)
    (snapshot : EvidenceSnapshot)
    (endpoints : Map EndpointId Endpoint)
    (links : Map LinkId Link)
    (hop : Hop) :
    Option FeasibilityResult :=
  match links[hop.link]? with
  | none => some (.reject .rejectTopology "link not present")
  | some link => linkRejection request snapshot endpoints hop link

/-- The checks on the number of hops and on interior endpoints. -/
def shapeRejection
    (request : CommunicationRequest)
    (endpoints : Map EndpointId Endpoint)
    (candidate : CandidatePath)
    (bounds : Bounds) :
    Option FeasibilityResult :=
  let hops := candidate.hops
  if hops = [] then
    some (.reject .insufficientEvidence "empty candidate path")
  else if bounds.maxPathDepth.toNat < hops.length then
    some (.reject .rejectStageLimit "depth exceeds bound")
  else if request.maxStages.toNat < hops.length then
    some (.reject .rejectStageLimit "exceeds request stage limit")
  else if request.maxHops.toNat < hops.length then
    some (.reject .rejectStageLimit "exceeds request hop limit")
  else if 1 < hops.length then
    if !request.allowStaging && !request.allowHostStaging then
      some (.reject .rejectEndpoint
        "multi-hop path requires staging but request forbids it")
    else if !request.allowRelay then
      some (.reject .rejectEndpoint "relay not allowed")
    else
      hops.dropLast.findSome? fun hop =>
        relayRejection request endpoints hop.target
  else
    none

/-- `evaluateCandidateFeasibility`: the first objection is the verdict. -/
def evaluateCandidateFeasibility
    (request : CommunicationRequest)
    (snapshot : EvidenceSnapshot)
    (candidate : CandidatePath)
    (bounds : Bounds) :
    FeasibilityResult :=
  let endpoints := snapshot.endpointMap
  let links := snapshot.linkMap
  match shapeRejection request endpoints candidate bounds with
  | some rejection => rejection
  | none =>
      match candidate.hops.findSome?
          (hopRejection request snapshot endpoints links) with
      | some rejection => rejection
      | none =>
          if !request.policyGeneration.isNull ∧
              snapshot.policyGeneration < request.policyGeneration then
            .reject .rejectPolicy "policy generation is not current"
          else
            .ok

/-! ## What the filter guarantees -/

/-- What the filter demands of an endpoint of a hop over `transport`. -/
structure EndpointAdmissible
    (snapshot : EvidenceSnapshot)
    (transport : Transport)
    (endpoint : Endpoint) : Prop where
  fresh : endpointFresh endpoint snapshot = true
  reachable : endpoint.reachable = true
  ready : endpoint.ready = true
  kindKnown : endpoint.kind ≠ .unknown
  supported : endpoint.capability.supports transport = true

/-- What the filter demands of a hop and of the records it resolves to. -/
structure HopAdmissible
    (request : CommunicationRequest)
    (snapshot : EvidenceSnapshot)
    (hop : Hop)
    (link : Link)
    (source target : Endpoint) : Prop where
  linkFound : snapshot.linkMap[hop.link]? = some link
  sourceFound : snapshot.endpointMap[hop.source]? = some source
  targetFound : snapshot.endpointMap[hop.target]? = some target
  fromSource : hop.source = link.source
  toDestination : hop.target = link.destination
  directed : link.directed = true
  transportAllowed :
    (transportAllowed request link.transport).feasible = true
  transportKnown : link.transport ≠ .unknown
  capacityPositive : link.capacity.count ≠ 0
  healthy : link.health.healthy = true
  belowHardLimit : link.congestion.hardLimitExceeded = false
  failureDomain :
    request.requiredFailureDomain = [] ∨
      link.failureDomain = request.requiredFailureDomain
  reservationFits :
    reservedOn snapshot (linkResource link.id) < link.capacity.count
  sourceAdmissible : EndpointAdmissible snapshot link.transport source
  targetAdmissible : EndpointAdmissible snapshot link.transport target

/-- What the filter demands of a whole candidate. -/
structure Admissible
    (request : CommunicationRequest)
    (snapshot : EvidenceSnapshot)
    (candidate : CandidatePath)
    (bounds : Bounds) : Prop where
  shape :
    shapeRejection request snapshot.endpointMap candidate bounds = none
  hops :
    ∀ hop ∈ candidate.hops,
      ∃ link source target,
        HopAdmissible request snapshot hop link source target
  policy :
    request.policyGeneration.isNull = true ∨
      request.policyGeneration ≤ snapshot.policyGeneration

theorem endpointRejection_eq_none_iff
    {snapshot : EvidenceSnapshot}
    {transport : Transport}
    {endpoint : Endpoint} :
    endpointRejection snapshot transport endpoint = none ↔
      EndpointAdmissible snapshot transport endpoint := by
  constructor
  · intro accepted
    unfold endpointRejection at accepted
    split_ifs at accepted with stale unready unknown unsupported
    have reachableReady :
        endpoint.reachable = true ∧ endpoint.ready = true := by
      simpa using unready
    exact
      { fresh := by simpa using stale
        reachable := reachableReady.1
        ready := reachableReady.2
        kindKnown := unknown
        supported := by simpa using unsupported }
  · rintro ⟨fresh, reachable, ready, kindKnown, supported⟩
    simp [endpointRejection, fresh, reachable, ready, kindKnown, supported]

theorem linkRejection_eq_none_iff
    {request : CommunicationRequest}
    {snapshot : EvidenceSnapshot}
    {hop : Hop}
    {link : Link}
    (linkFound : snapshot.linkMap[hop.link]? = some link) :
    linkRejection request snapshot snapshot.endpointMap hop link = none ↔
      ∃ source target,
        HopAdmissible request snapshot hop link source target := by
  constructor
  · intro accepted
    unfold linkRejection at accepted
    split_ifs at accepted with direction undirected transport empty
      unknown unhealthy congested domain reserved
    simp only [not_or, not_not] at direction
    split at accepted
    · rename_i source target sourceFound targetFound
      simp only [List.findSome?_cons, List.findSome?_nil] at accepted
      split at accepted
      · cases accepted
      rename_i sourceAccepted
      split at accepted
      · cases accepted
      rename_i targetAccepted
      refine ⟨source, target, ?_⟩
      exact
        { linkFound := linkFound
          sourceFound := sourceFound
          targetFound := targetFound
          fromSource := direction.1
          toDestination := direction.2
          directed := by simpa using undirected
          transportAllowed := by simpa using transport
          transportKnown := unknown
          capacityPositive := empty
          healthy := by simpa using unhealthy
          belowHardLimit := by simpa using congested
          failureDomain := by tauto
          reservationFits := by simpa using reserved
          sourceAdmissible := endpointRejection_eq_none_iff.mp sourceAccepted
          targetAdmissible := endpointRejection_eq_none_iff.mp targetAccepted }
    · cases accepted
  · rintro ⟨source, target, admissible⟩
    have sourceAccepted :=
      endpointRejection_eq_none_iff.mpr admissible.sourceAdmissible
    have targetAccepted :=
      endpointRejection_eq_none_iff.mpr admissible.targetAdmissible
    have domain :
        ¬ (request.requiredFailureDomain ≠ [] ∧
          link.failureDomain ≠ request.requiredFailureDomain) := by
      have := admissible.failureDomain
      tauto
    have reserved :
        ¬ link.capacity.count ≤
          reservedOn snapshot (linkResource link.id) := by
      simpa using admissible.reservationFits
    unfold linkRejection
    rw [if_neg (by simp [admissible.fromSource, admissible.toDestination]),
      if_neg (by simp [admissible.directed]),
      if_neg (by simp [admissible.transportAllowed]),
      if_neg admissible.capacityPositive,
      if_neg admissible.transportKnown,
      if_neg (by simp [admissible.healthy]),
      if_neg (by simp [admissible.belowHardLimit]),
      if_neg domain, if_neg reserved,
      admissible.sourceFound, admissible.targetFound]
    simp [sourceAccepted, targetAccepted]

theorem hopRejection_eq_none_iff
    {request : CommunicationRequest}
    {snapshot : EvidenceSnapshot}
    {hop : Hop} :
    hopRejection request snapshot snapshot.endpointMap snapshot.linkMap
        hop = none ↔
      ∃ link source target,
        HopAdmissible request snapshot hop link source target := by
  unfold hopRejection
  cases linkFound : snapshot.linkMap[hop.link]? with
  | none =>
      simp only [reduceCtorEq, false_iff, not_exists]
      intro link source target admissible
      rw [admissible.linkFound] at linkFound
      cases linkFound
  | some link =>
      simp only
      rw [linkRejection_eq_none_iff linkFound]
      constructor
      · rintro ⟨source, target, admissible⟩
        exact ⟨link, source, target, admissible⟩
      · rintro ⟨other, source, target, admissible⟩
        have same : other = link := by
          have found := admissible.linkFound
          rw [linkFound] at found
          exact (Option.some.inj found).symm
        subst same
        exact ⟨source, target, admissible⟩

/-- A rejection of the early checks is never feasible. -/
private theorem shapeRejection_infeasible
    {request : CommunicationRequest}
    {endpoints : Map EndpointId Endpoint}
    {candidate : CandidatePath}
    {bounds : Bounds}
    {rejection : FeasibilityResult}
    (rejected :
      shapeRejection request endpoints candidate bounds = some rejection) :
    rejection.feasible = false := by
  unfold shapeRejection at rejected
  simp only at rejected
  split_ifs at rejected
  all_goals first
    | (cases rejected; rfl)
    | skip
  obtain ⟨hop, _, rejectedAt⟩ := List.exists_of_findSome?_eq_some rejected
  unfold relayRejection at rejectedAt
  split at rejectedAt
  · cases rejectedAt
    rfl
  · split_ifs at rejectedAt <;> cases rejectedAt <;> rfl

/-- A rejection of a hop is never feasible. -/
private theorem hopRejection_infeasible
    {request : CommunicationRequest}
    {snapshot : EvidenceSnapshot}
    {endpoints : Map EndpointId Endpoint}
    {links : Map LinkId Link}
    {hop : Hop}
    {rejection : FeasibilityResult}
    (rejected :
      hopRejection request snapshot endpoints links hop = some rejection) :
    rejection.feasible = false := by
  unfold hopRejection at rejected
  split at rejected
  · cases rejected
    rfl
  · unfold linkRejection at rejected
    split_ifs at rejected with _ _ transport
    all_goals first
      | (cases rejected; rfl)
      | skip
    · cases rejected
      simpa using transport
    · split at rejected
      · obtain ⟨endpoint, _, rejectedAt⟩ :=
          List.exists_of_findSome?_eq_some rejected
        unfold endpointRejection at rejectedAt
        split_ifs at rejectedAt <;> cases rejectedAt <;> rfl
      · cases rejected
        rfl

/-- The filter accepts exactly the admissible candidates. -/
theorem evaluateCandidateFeasibility_feasible_iff
    {request : CommunicationRequest}
    {snapshot : EvidenceSnapshot}
    {candidate : CandidatePath}
    {bounds : Bounds} :
    (evaluateCandidateFeasibility request snapshot candidate
        bounds).feasible = true ↔
      Admissible request snapshot candidate bounds := by
  unfold evaluateCandidateFeasibility
  simp only
  cases shape :
      shapeRejection request snapshot.endpointMap candidate bounds with
  | some rejection =>
      simp only [shapeRejection_infeasible shape, Bool.false_eq_true,
        false_iff]
      intro admissible
      rw [admissible.shape] at shape
      cases shape
  | none =>
      cases searched :
          candidate.hops.findSome?
            (hopRejection request snapshot snapshot.endpointMap
              snapshot.linkMap) with
      | some rejection =>
          obtain ⟨hop, member, rejected⟩ :=
            List.exists_of_findSome?_eq_some searched
          simp only [hopRejection_infeasible rejected, Bool.false_eq_true,
            false_iff]
          intro admissible
          have accepted :=
            hopRejection_eq_none_iff.mpr (admissible.hops hop member)
          rw [accepted] at rejected
          cases rejected
      | none =>
          have everyHop := List.findSome?_eq_none_iff.mp searched
          have policyIff :
              ¬ (!request.policyGeneration.isNull ∧
                snapshot.policyGeneration < request.policyGeneration) ↔
              request.policyGeneration.isNull = true ∨
                request.policyGeneration ≤ snapshot.policyGeneration := by
            rw [not_and_or, not_lt]
            simp
          constructor
          · intro feasible
            refine ⟨shape, fun hop member =>
              hopRejection_eq_none_iff.mp (everyHop hop member), ?_⟩
            rw [← policyIff]
            intro stale
            rw [if_pos stale] at feasible
            cases feasible
          · intro admissible
            rw [if_neg (policyIff.mpr admissible.policy)]
            rfl

end CommunicationPlanner
