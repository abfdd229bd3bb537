import CommunicationPlanner.Failover
import CommunicationPlanner.LoopErasure

namespace CommunicationPlanner

open OrderedCollections SimplePathSearch TransitionRun

/-!
# When there is a route

The planner tries vertex-simple paths only, and only within its limits.  A chain
of hops that comes back to an endpoint is never worth trying: what the filter
asks is asked of each hop and of each relay, so a simple path over some of its
hops passes wherever the chain does.  A request is planned if and only if any
chain passes the filter at all; and in a network so small that no limit binds,
if and only if its destination can be reached.
-/

/-- A chain of hops, with whatever repetitions, that the filter lets pass. -/
structure Route
    (request : CommunicationRequest)
    (snapshot : EvidenceSnapshot)
    (bounds : Bounds)
    (destination : EndpointId)
    (hops : List Hop) : Prop where
  contiguous : Contiguous request.source hops destination
  relays : hops.length - 1 ≤ bounds.maxRelayCount.toNat
  feasible :
    (evaluateCandidateFeasibility request snapshot
      ⟨request.source, destination, hops⟩ bounds).feasible = true

/-- The filter accepts the hop for the request. -/
def Accepts
    (request : CommunicationRequest)
    (snapshot : EvidenceSnapshot)
    (hop : Hop) : Prop :=
  hopRejection request snapshot snapshot.endpointMap snapshot.linkMap hop = none

/-- The hop is accepted and ends at an endpoint that may relay the request. -/
def RelaysOver
    (request : CommunicationRequest)
    (snapshot : EvidenceSnapshot)
    (hop : Hop) : Prop :=
  Accepts request snapshot hop ∧
    relayRejection request snapshot.endpointMap hop.target = none

/-- The request may be carried over more than one hop. -/
def CommunicationRequest.relayed (request : CommunicationRequest) : Bool :=
  (request.allowStaging || request.allowHostStaging) && request.allowRelay

/--
The destination can be reached from the source: over relays to where the last
hop starts, and then over the last hop.
-/
structure Reaches
    (request : CommunicationRequest)
    (snapshot : EvidenceSnapshot)
    (last : Hop)
    (destination : EndpointId) : Prop where
  reached :
    Relation.ReflTransGen
      (fun source target =>
        ∃ hop : Hop,
          hop.source = source ∧ hop.target = target ∧
            RelaysOver request snapshot hop)
      request.source last.source
  accepted : Accepts request snapshot last
  arrives : last.target = destination
  permitted : last.source = request.source ∨ request.relayed = true
  policy :
    request.policyGeneration.isNull = true ∨
      request.policyGeneration ≤ snapshot.policyGeneration

/-- No limit on hops, stages or relays binds in a network of this size. -/
structure Unhindered
    (request : CommunicationRequest)
    (snapshot : EvidenceSnapshot)
    (bounds : Bounds) : Prop where
  depth : snapshot.endpoints.length ≤ bounds.maxPathDepth.toNat + 1
  stages : snapshot.endpoints.length ≤ request.maxStages.toNat + 1
  hops : snapshot.endpoints.length ≤ request.maxHops.toNat + 1
  relays : snapshot.endpoints.length ≤ bounds.maxRelayCount.toNat + 2

section

variable
  {request : CommunicationRequest}
  {snapshot : EvidenceSnapshot}
  {bounds : Bounds}
  {source destination : EndpointId}
  {hops walk path : List Hop}

/-! ## What the filter asks of a chain -/

theorem shapeRejection_eq_none_iff
    {endpoints : Map EndpointId Endpoint}
    {candidate : CandidatePath} :
    shapeRejection request endpoints candidate bounds = none ↔
      candidate.hops ≠ [] ∧
      candidate.hops.length ≤ bounds.maxPathDepth.toNat ∧
      candidate.hops.length ≤ request.maxStages.toNat ∧
      candidate.hops.length ≤ request.maxHops.toNat ∧
      (1 < candidate.hops.length →
        request.relayed = true ∧
        ∀ hop ∈ candidate.hops.dropLast,
          relayRejection request endpoints hop.target = none) := by
  unfold shapeRejection CommunicationRequest.relayed
  constructor
  · intro accepted
    simp only at accepted
    split_ifs at accepted with empty depth stages limit several unstaged
      unrelayed
    · rw [List.findSome?_eq_none_iff] at accepted
      refine ⟨empty, by omega, by omega, by omega, fun _ => ⟨?_, accepted⟩⟩
      have staged :
          (request.allowStaging || request.allowHostStaging) = true := by
        simpa [or_iff_not_imp_left] using unstaged
      rw [staged, Bool.true_and]
      simpa using unrelayed
    · exact ⟨empty, by omega, by omega, by omega, 
        fun more => (several more).elim⟩
  · rintro ⟨nonempty, depth, stages, limit, relays⟩
    simp only
    rw [if_neg nonempty, if_neg (by omega), if_neg (by omega),
      if_neg (by omega)]
    split_ifs with several unstaged unrelayed
    · simp_all
    · simp_all
    · exact List.findSome?_eq_none_iff.mpr (relays several).2
    · rfl

theorem hopLinked_of_accepts
    {hop : Hop}
    (accepted : Accepts request snapshot hop) :
    HopLinked snapshot.links hop := by
  obtain ⟨link, start, stop, admissible⟩ :=
    hopRejection_eq_none_iff.mp accepted
  obtain ⟨member, sameId⟩ := mem_of_getElem?_indexBy admissible.linkFound
  exact ⟨link, member, sameId, admissible.fromSource.symm,
    admissible.toDestination.symm⟩

/-- Both ends of an accepted hop are endpoints of the snapshot. -/
theorem ends_mem_of_accepts
    {hop : Hop}
    (accepted : Accepts request snapshot hop) :
    hop.source ∈ snapshot.endpoints.map (fun endpoint => endpoint.id) ∧
      hop.target ∈ snapshot.endpoints.map fun endpoint => endpoint.id := by
  obtain ⟨link, start, stop, admissible⟩ :=
    hopRejection_eq_none_iff.mp accepted
  obtain ⟨fromMember, fromId⟩ :=
    mem_of_getElem?_indexBy admissible.sourceFound
  obtain ⟨toMember, toId⟩ := mem_of_getElem?_indexBy admissible.targetFound
  exact ⟨List.mem_map.mpr ⟨start, fromMember, fromId⟩,
    List.mem_map.mpr ⟨stop, toMember, toId⟩⟩

/-! ## Simple routes -/

/-- Of a chain of accepted hops a simple path can be kept. -/
theorem exists_simplePath_of_accepts
    (apart : source ≠ destination)
    (contiguous : Contiguous source walk destination)
    (accepted : ∀ hop ∈ walk, Accepts request snapshot hop) :
    ∃ path,
      (hopGraph snapshot.links).SimplePath source destination path ∧
      path.Sublist walk ∧
      path.length < snapshot.endpoints.length ∧
      ∀ hop ∈ path.dropLast, hop ∈ walk.dropLast := by
  have leads : (hopGraph snapshot.links).Leads source walk destination :=
    leads_hopGraph_iff.mpr
      ⟨contiguous, fun hop member => hopLinked_of_accepts (accepted hop member)⟩
  obtain ⟨path, within, simplePath⟩ := exists_simplePath_of_leads leads apart
  refine ⟨path, simplePath, within, ?_, ?_⟩
  · rw [← List.length_map fun endpoint : Endpoint => endpoint.id]
    refine simplePath.length_lt ?_ ?_
    · obtain ⟨first, later, rfl⟩ :=
        List.exists_cons_of_ne_nil simplePath.nonempty
      have starts : first.source = source :=
        (mem_hopGraph_edges.mp simplePath.leads.1).1
      rw [← starts]
      exact (ends_mem_of_accepts
        (accepted first (within.subset List.mem_cons_self))).1
    · intro hop member
      exact (ends_mem_of_accepts (accepted hop (within.subset member))).2
  · intro hop member
    exact mem_dropLast_of_target_ne leads
      (within.subset (List.mem_of_mem_dropLast member))
      (simplePath.target_ne_of_mem_dropLast member)

theorem admissible_of_simplePath
    (accepted : ∀ hop ∈ path, Accepts request snapshot hop)
    (simplePath :
      (hopGraph snapshot.links).SimplePath request.source destination path)
    (depth : path.length ≤ bounds.maxPathDepth.toNat)
    (stages : path.length ≤ request.maxStages.toNat)
    (limit : path.length ≤ request.maxHops.toNat)
    (relays : path.length - 1 ≤ bounds.maxRelayCount.toNat)
    (permitted :
      1 < path.length →
        request.relayed = true ∧
        ∀ hop ∈ path.dropLast,
          relayRejection request snapshot.endpointMap hop.target = none)
    (policy :
      request.policyGeneration.isNull = true ∨
        request.policyGeneration ≤ snapshot.policyGeneration) :
    LinkPath snapshot request.source destination bounds
        ⟨request.source, destination, path⟩ ∧
      (evaluateCandidateFeasibility request snapshot
        ⟨request.source, destination, path⟩ bounds).feasible = true := by
  obtain ⟨contiguous, linked⟩ := leads_hopGraph_iff.mp simplePath.leads
  refine ⟨?_, ?_⟩
  · exact
      { fromSource := rfl
        toDestination := rfl
        nonempty := simplePath.nonempty
        linked := linked
        contiguous := contiguous
        simple := simplePath.simple
        depth := depth
        relays := relays }
  · rw [evaluateCandidateFeasibility_feasible_iff]
    exact
      { shape := shapeRejection_eq_none_iff.mpr
          ⟨simplePath.nonempty, depth, stages, limit, permitted⟩
        hops := fun hop member =>
          hopRejection_eq_none_iff.mp (accepted hop member)
        policy := policy }

/-- There is a feasible simple path exactly when there is a route. -/
theorem exists_linkPath_iff_route
    (apart : request.source ≠ destination) :
    (∃ candidate,
      LinkPath snapshot request.source destination bounds candidate ∧
        (evaluateCandidateFeasibility request snapshot candidate
          bounds).feasible = true) ↔
      ∃ hops, Route request snapshot bounds destination hops := by
  constructor
  · rintro ⟨⟨start, stop, hops⟩, linkPath, feasible⟩
    obtain rfl : start = request.source := linkPath.fromSource
    obtain rfl : stop = destination := linkPath.toDestination
    exact ⟨hops, linkPath.contiguous, linkPath.relays, feasible⟩
  · rintro ⟨walk, contiguous, relays, feasible⟩
    have admissible := evaluateCandidateFeasibility_feasible_iff.mp feasible
    obtain ⟨_, depth, stages, limit, permitted⟩ :=
      shapeRejection_eq_none_iff.mp admissible.shape
    have accepted : ∀ hop ∈ walk, Accepts request snapshot hop :=
      fun hop member => hopRejection_eq_none_iff.mpr (admissible.hops hop member)
    obtain ⟨path, simplePath, within, _, interior⟩ :=
      exists_simplePath_of_accepts apart contiguous accepted
    have shorter := within.length_le
    simp only at depth stages limit permitted
    refine ⟨_, admissible_of_simplePath
      (fun hop member => accepted hop (within.subset member)) simplePath
      (by omega) (by omega) (by omega) (by omega) ?_ admissible.policy⟩
    intro several
    obtain ⟨relayed, everyRelay⟩ := permitted (by omega)
    exact ⟨relayed, fun hop member => everyRelay hop (interior hop member)⟩

/-! ## Reachability -/

/-- Reaching over relays is walking over hops that relay. -/
theorem reflTransGen_relaysOver_iff :
    Relation.ReflTransGen
        (fun source target =>
          ∃ hop : Hop,
            hop.source = source ∧ hop.target = target ∧
              RelaysOver request snapshot hop)
        source destination ↔
      ∃ walk,
        Contiguous source walk destination ∧
          ∀ hop ∈ walk, RelaysOver request snapshot hop := by
  have sameSteps :
      (fun source target =>
        ∃ hop : Hop,
          hop.source = source ∧ hop.target = target ∧
            RelaysOver request snapshot hop) =
        (hopGraph snapshot.links).StepsBy (RelaysOver request snapshot) := by
    funext source target
    simp only [SearchGraph.StepsBy, mem_hopGraph_edges, eq_iff_iff]
    constructor
    · rintro ⟨hop, starts, stops, relays⟩
      exact ⟨hop, ⟨starts, hopLinked_of_accepts relays.1⟩, relays, stops⟩
    · rintro ⟨hop, ⟨starts, _⟩, relays, stops⟩
      exact ⟨hop, starts, stops, relays⟩
  rw [sameSteps, reflTransGen_stepsBy_iff]
  refine exists_congr fun walk => ?_
  rw [leads_hopGraph_iff]
  constructor
  · rintro ⟨⟨contiguous, _⟩, relays⟩
    exact ⟨contiguous, relays⟩
  · rintro ⟨contiguous, relays⟩
    exact ⟨⟨contiguous, fun hop member =>
      hopLinked_of_accepts (relays hop member).1⟩, relays⟩

/-- A chain is contiguous up to its last hop. -/
theorem contiguous_append_singleton
    {last : Hop} :
    Contiguous source (walk ++ [last]) destination ↔
      Contiguous source walk last.source ∧ last.target = destination := by
  induction walk generalizing source with
  | nil =>
      simp [Contiguous, eq_comm]
  | cons hop later inductionHypothesis =>
      simp only [List.cons_append, Contiguous, inductionHypothesis, and_assoc]

/-- The end of a route can be reached. -/
theorem exists_reaches_of_route
    (route : Route request snapshot bounds destination hops) :
    ∃ last, Reaches request snapshot last destination := by
  have admissible :=
    evaluateCandidateFeasibility_feasible_iff.mp route.feasible
  obtain ⟨nonempty, _, _, _, permitted⟩ :=
    shapeRejection_eq_none_iff.mp admissible.shape
  obtain ⟨walk, last, rfl⟩ := List.eq_nil_or_concat hops |>.resolve_left nonempty
  rw [List.concat_eq_append] at *
  simp only [List.dropLast_concat, List.length_append, List.length_singleton]
    at permitted
  obtain ⟨contiguous, arrives⟩ :=
    contiguous_append_singleton.mp route.contiguous
  have accepted :
      ∀ hop ∈ walk ++ [last], Accepts request snapshot hop := fun hop member =>
    hopRejection_eq_none_iff.mpr (admissible.hops hop member)
  refine ⟨last, ?_, accepted last (by simp), arrives, ?_, admissible.policy⟩
  · rw [reflTransGen_relaysOver_iff]
    refine ⟨walk, contiguous, fun hop member => ⟨?_, ?_⟩⟩
    · exact accepted hop (List.mem_append_left _ member)
    · have positive := List.length_pos_of_mem member
      exact (permitted (by omega)).2 hop member
  · cases walk with
    | nil => exact .inl contiguous.symm
    | cons first later => exact .inr (permitted (by simp)).1

/-- Where no limit binds, what can be reached has a route. -/
theorem exists_route_of_reaches
    (apart : request.source ≠ destination)
    (unhindered : Unhindered request snapshot bounds)
    {last : Hop}
    (reaches : Reaches request snapshot last destination) :
    ∃ hops, Route request snapshot bounds destination hops := by
  obtain ⟨walk, contiguous, accepted, relayed, everyRelay⟩ :
      ∃ walk,
        Contiguous request.source walk destination ∧
        (∀ hop ∈ walk, Accepts request snapshot hop) ∧
        (1 < walk.length → request.relayed = true) ∧
        ∀ hop ∈ walk.dropLast,
          relayRejection request snapshot.endpointMap hop.target = none := by
    by_cases direct : last.source = request.source
    · refine ⟨[last], ⟨direct, reaches.arrives⟩, ?_, by simp, by simp⟩
      intro hop member
      rw [List.mem_singleton.mp member]
      exact reaches.accepted
    · obtain ⟨walk, contiguous, relays⟩ :=
        reflTransGen_relaysOver_iff.mp reaches.reached
      refine ⟨walk ++ [last],
        contiguous_append_singleton.mpr ⟨contiguous, reaches.arrives⟩, ?_,
        fun _ => reaches.permitted.resolve_left direct, ?_⟩
      · intro hop member
        rcases List.mem_append.mp member with inWalk | isLast
        · exact (relays hop inWalk).1
        · rw [List.mem_singleton.mp isLast]
          exact reaches.accepted
      · intro hop member
        rw [List.dropLast_concat] at member
        exact (relays hop member).2
  obtain ⟨path, simplePath, within, short, interior⟩ :=
    exists_simplePath_of_accepts apart contiguous accepted
  have shorter := within.length_le
  obtain ⟨depth, stages, limit, relayCount⟩ := unhindered
  refine (exists_linkPath_iff_route apart).mp ⟨_, admissible_of_simplePath
    (fun hop member => accepted hop (within.subset member)) simplePath
    (by omega) (by omega) (by omega) (by omega) ?_ reaches.policy⟩
  intro several
  exact ⟨relayed (by omega), fun hop member =>
    everyRelay hop (interior hop member)⟩

/-! ## Planning -/

/-- A point-to-point request is planned exactly when it has a route. -/
theorem planCommunication_succeeds_iff_route
    {weights : RankingWeights}
    {counters : Counters}
    (distinct : (snapshot.links.map fun link => link.id).Nodup)
    (valid : request.validate = true)
    (shape : request.shape = .pointToPoint ∨ request.shape = .staged)
    (unicast : request.allowMulticast = false)
    (destinations : request.destinations = [destination])
    (apart : request.source ≠ destination)
    (fits :
      Set.encard {candidate |
          LinkPath snapshot request.source destination bounds candidate} ≤
        (bounds.maxCandidates.toNat : ℕ∞)) :
    ∃ outcome remaining,
      (planCommunication request snapshot weights bounds).run counters =
        .ok (outcome, remaining) ∧
      (outcome.success = true ↔
        ∃ hops, Route request snapshot bounds destination hops) ∧
      (outcome.success = true → ∃ plan, outcome.plan = some plan) := by
  rw [planCommunication_eq_planPointToPoint snapshot weights bounds valid shape
    unicast]
  obtain ⟨outcome, remaining, ran⟩ :=
    @succeeds_planPointToPoint request snapshot weights bounds destination []
      destinations counters
  obtain ⟨successIff, planned⟩ :=
    ensures_planPointToPoint_ranking destinations _ _ _ ran
  refine ⟨outcome, remaining, ran, ?_, fun success => ?_⟩
  · rw [successIff, ← exists_linkPath_iff_route apart]
    simp only [← @mem_map_path_ranking_iff request snapshot weights bounds
      request.source destination distinct fits]
    constructor
    · intro nonempty
      exact List.exists_mem_of_ne_nil _ (by simpa using nonempty)
    · rintro ⟨candidate, member⟩ empty
      simp [empty] at member
  · obtain ⟨plan, isPlan, _⟩ := planned success
    exact ⟨plan, isPlan⟩

end

namespace Coordinator

variable
  {config : Config}
  {store : Option (List UInt8)}
  {trace : List CoordinatorStep}
  {final : Coordinator}
  {request : CommunicationRequest}
  {destination : EndpointId}

end Coordinator

end CommunicationPlanner
