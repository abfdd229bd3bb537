import CommunicationPlanner.RegistryEffects

namespace CommunicationPlanner

open OrderedCollections TransitionRun

/-!
# The hard constraints at the handoff

Revalidation trusts generations: a bound record that still has its bound
generation counts as unchanged.  It does not look at the facts that the hard
filter checked at planning time.  So a plan that passes revalidation still
meets every hard constraint, as long as no publication repeats a bound
generation with other facts.
-/

/-- The link still has what the hard filter checks and revalidation does not. -/
def Link.keepsFacts (link known : Link) : Bool :=
  link.source = known.source && link.destination = known.destination &&
    link.directed = known.directed && link.transport = known.transport &&
    link.failureDomain = known.failureDomain &&
    (known.capacity.count = 0 || link.capacity.count ≠ 0)

/--
The endpoint still has what the hard filter checks and revalidation does not.
-/
def Endpoint.keepsFacts (endpoint known : Endpoint) : Bool :=
  endpoint.kind = known.kind &&
    known.capability.transports ⊆ endpoint.capability.transports

/-- The facts of the records that the plan is bound to are those of planning. -/
structure FactsKept
    (plan : CommunicationPlan)
    (planning current : EvidenceSnapshot) : Prop where
  links :
    ∀ known ∈ planning.links,
      (known.id, known.generation) ∈ plan.linkGenerations →
      ∀ link ∈ current.links,
        link.id = known.id →
        link.generation = known.generation →
        link.keepsFacts known = true
  endpoints :
    ∀ known ∈ planning.endpoints,
      (known.id, known.generation) ∈ plan.endpointGenerations →
      ∀ endpoint ∈ current.endpoints,
        endpoint.id = known.id →
        endpoint.generation = known.generation →
        endpoint.keepsFacts known = true

theorem Link.keepsFacts_refl (link : Link) : link.keepsFacts link = true := by
  simp [Link.keepsFacts]

theorem Endpoint.keepsFacts_refl
    (endpoint : Endpoint) :
    endpoint.keepsFacts endpoint = true := by
  simp [Endpoint.keepsFacts]

theorem factsKept_refl
    {planning : EvidenceSnapshot}
    (distinct : DistinctIds planning)
    (plan : CommunicationPlan) :
    FactsKept plan planning planning := by
  constructor
  · intro known member _ link linkMember sameId _
    have same : link = known :=
      List.inj_on_of_nodup_map distinct.links linkMember member sameId
    rw [same]
    exact known.keepsFacts_refl
  · intro known member _ endpoint endpointMember sameId _
    have same : endpoint = known :=
      List.inj_on_of_nodup_map distinct.endpoints endpointMember member
        sameId
    rw [same]
    exact known.keepsFacts_refl

/-! ## From planning to the handoff -/

/-- The planned endpoint of an identity, and what revalidation finds under it. -/
structure EndpointRevalidated
    (planning current : EvidenceSnapshot)
    (id : EndpointId)
    (known endpoint : Endpoint) : Prop where
  planned : planning.endpointMap[id]? = some known
  found : current.endpointMap[id]? = some endpoint
  fresh : endpointFresh endpoint current = true
  reachable : endpoint.reachable = true
  ready : endpoint.ready = true
  kind : endpoint.kind = known.kind
  transports :
    known.capability.transports ⊆ endpoint.capability.transports

section

variable
  {request : CommunicationRequest}
  {planning current : EvidenceSnapshot}
  {weights : RankingWeights}
  {bounds : Bounds}
  {plan : CommunicationPlan}

/-- What revalidation and the kept facts say about one endpoint of a stage. -/
theorem Planned.endpoint_revalidated
    (planned : Planned request planning weights bounds plan)
    (revalidated : Revalidated plan current)
    (kept : FactsKept plan planning current)
    {path : Path}
    (inPlan : path ∈ plan.candidatePaths)
    {stage : Stage}
    (inPath : stage ∈ path.stages)
    {id : EndpointId}
    (visited : stage.source = id ∨ stage.destination = id)
    {known : Endpoint}
    (found : planning.endpointMap[id]? = some known) :
    ∃ endpoint, EndpointRevalidated planning current id known endpoint := by
  have isBound := planned.endpoint_bound inPlan inPath visited found
  obtain ⟨member, sameId⟩ := mem_of_getElem?_indexBy found
  obtain ⟨endpoint, now⟩ := revalidated.endpoints _ isBound
  obtain ⟨nowMember, nowId⟩ := mem_of_getElem?_indexBy now.found
  have facts := kept.endpoints known member isBound endpoint nowMember nowId
    now.generation
  simp only [Endpoint.keepsFacts, Bool.and_eq_true, decide_eq_true_eq]
    at facts
  have lookup := now.found
  simp only [sameId] at lookup
  exact ⟨endpoint, found, lookup, now.fresh, now.reachable, now.ready,
    facts.1, facts.2⟩

/-- An endpoint that passed the filter still does. -/
theorem EndpointRevalidated.admissible
    {id : EndpointId}
    {known endpoint : Endpoint}
    {transport : Transport}
    (revalidated :
      EndpointRevalidated planning current id known endpoint)
    (admissible : EndpointAdmissible planning transport known) :
    EndpointAdmissible current transport endpoint := by
  refine ⟨revalidated.fresh, revalidated.reachable, revalidated.ready, ?_,
    ?_⟩
  · rw [revalidated.kind]
    exact admissible.kindKnown
  · have supported := admissible.supported
    simp only [Capability.supports, decide_eq_true_eq] at supported ⊢
    exact revalidated.transports supported

/-- The staging check of a relay looks at its kind only. -/
theorem EndpointRevalidated.relayRejection_eq
    {id : EndpointId}
    {known endpoint : Endpoint}
    (revalidated :
      EndpointRevalidated planning current id known endpoint) :
    relayRejection request current.endpointMap id =
      relayRejection request planning.endpointMap id := by
  simp only [relayRejection, revalidated.planned, revalidated.found,
    revalidated.kind]

/-- The checks of the shape look at the relays only. -/
theorem shapeRejection_eq_none_of_relays
    {endpoints others : Map EndpointId Endpoint}
    {candidate : CandidatePath}
    (accepted : shapeRejection request endpoints candidate bounds = none)
    (relays :
      ∀ hop ∈ candidate.hops,
        relayRejection request others hop.target =
          relayRejection request endpoints hop.target) :
    shapeRejection request others candidate bounds = none := by
  have sameSearch :
      (candidate.hops.dropLast.findSome? fun hop =>
        relayRejection request others hop.target) =
      candidate.hops.dropLast.findSome? fun hop =>
        relayRejection request endpoints hop.target := by
    have sameAll : ∀ hop ∈ candidate.hops.dropLast,
        relayRejection request others hop.target =
          relayRejection request endpoints hop.target :=
      fun hop member => relays hop (List.mem_of_mem_dropLast member)
    generalize candidate.hops.dropLast = hops at sameAll
    induction hops with
    | nil => rfl
    | cons hop rest inductionHypothesis =>
        rw [List.findSome?_cons, List.findSome?_cons,
          sameAll hop List.mem_cons_self,
          inductionHypothesis fun later member =>
            sameAll later (List.mem_cons_of_mem _ member)]
  unfold shapeRejection at accepted ⊢
  simp only [sameSearch]
  exact accepted

/--
A hop that passed the filter still does, as nothing is ever reserved in a
coordinator's snapshot.
-/
private theorem hopAdmissible_of_revalidated
    (planned : Planned request planning weights bounds plan)
    (revalidated : Revalidated plan current)
    (kept : FactsKept plan planning current)
    (unreserved : current.reservations = [])
    {path : Path}
    (inPlan : path ∈ plan.candidatePaths)
    {stage : Stage}
    (inPath : stage ∈ path.stages)
    {known : Link}
    {knownSource knownTarget : Endpoint}
    (admissible :
      HopAdmissible request planning stage.hop known knownSource
        knownTarget) :
    ∃ link source target,
      HopAdmissible request current stage.hop link source target := by
  have isBound := planned.link_bound inPlan inPath admissible.linkFound
  obtain ⟨member, sameId⟩ := mem_of_getElem?_indexBy admissible.linkFound
  obtain ⟨link, now⟩ := revalidated.links _ isBound
  obtain ⟨nowMember, nowId⟩ := mem_of_getElem?_indexBy now.found
  have facts := kept.links known member isBound link nowMember nowId
    now.generation
  simp only [Link.keepsFacts, Bool.and_eq_true, Bool.or_eq_true,
    decide_eq_true_eq, ne_eq, decide_not, Bool.not_eq_true',
    decide_eq_false_iff_not] at facts
  obtain ⟨⟨⟨⟨⟨sameSource, sameDestination⟩, sameDirected⟩, sameTransport⟩,
    sameDomain⟩, capacity⟩ := facts
  have capacityPositive : link.capacity.count ≠ 0 :=
    capacity.resolve_left admissible.capacityPositive
  obtain ⟨source, sourceNow⟩ := planned.endpoint_revalidated revalidated
    kept inPlan inPath (.inl rfl) admissible.sourceFound
  obtain ⟨target, targetNow⟩ := planned.endpoint_revalidated revalidated
    kept inPlan inPath (.inr rfl) admissible.targetFound
  have linkFound : current.linkMap[stage.hop.link]? = some link := by
    have lookup := now.found
    simp only [sameId] at lookup
    exact lookup
  refine ⟨link, source, target,
    { linkFound := linkFound
      sourceFound := sourceNow.found
      targetFound := targetNow.found
      fromSource := by rw [sameSource]; exact admissible.fromSource
      toDestination := by
        rw [sameDestination]
        exact admissible.toDestination
      directed := by rw [sameDirected]; exact admissible.directed
      transportAllowed := by
        rw [sameTransport]
        exact admissible.transportAllowed
      transportKnown := by
        rw [sameTransport]
        exact admissible.transportKnown
      capacityPositive := capacityPositive
      healthy := now.healthy
      belowHardLimit := now.belowHardLimit
      failureDomain := by rw [sameDomain]; exact admissible.failureDomain
      reservationFits := ?_
      sourceAdmissible := ?_
      targetAdmissible := ?_ }⟩
  · rw [reservedOn, unreserved, List.foldl_nil]
    exact UInt64.pos_iff_ne_zero.mpr capacityPositive
  · rw [sameTransport]
    exact sourceNow.admissible admissible.sourceAdmissible
  · rw [sameTransport]
    exact targetNow.admissible admissible.targetAdmissible

/-- The candidate that a path of a plan runs over. -/
def Path.candidate (path : Path) : CandidatePath :=
  ⟨path.source, path.destination, path.stages.map Stage.hop⟩

/-- A planned path that passes revalidation passes the filter again. -/
theorem Planned.feasible_of_revalidated
    (planned : Planned request planning weights bounds plan)
    (revalidated : Revalidated plan current)
    (kept : FactsKept plan planning current)
    (unreserved : current.reservations = [])
    (samePolicy : current.policyGeneration = planning.policyGeneration)
    {path : Path}
    (inPlan : path ∈ plan.candidatePaths) :
    (evaluateCandidateFeasibility request current path.candidate
      bounds).feasible = true := by
  obtain ⟨source, destination, candidate, cost, chosen, built⟩ :=
    planned.paths.chosen path inPlan
  have sameCandidate : path.candidate = candidate := by
    rw [Path.candidate, built.source, built.destination, built.hops]
  have admissible :=
    evaluateCandidateFeasibility_feasible_iff.mp chosen.feasible
  rw [sameCandidate]
  refine evaluateCandidateFeasibility_feasible_iff.mpr ⟨?_, ?_, ?_⟩
  · refine shapeRejection_eq_none_of_relays admissible.shape ?_
    intro hop member
    obtain ⟨known, knownSource, knownTarget, atPlanning⟩ :=
      admissible.hops hop member
    rw [← built.hops] at member
    obtain ⟨stage, inPath, rfl⟩ := List.mem_map.mp member
    obtain ⟨target, targetNow⟩ := planned.endpoint_revalidated revalidated
      kept inPlan inPath (.inr rfl) atPlanning.targetFound
    exact targetNow.relayRejection_eq
  · intro hop member
    obtain ⟨known, knownSource, knownTarget, atPlanning⟩ :=
      admissible.hops hop member
    rw [← built.hops] at member
    obtain ⟨stage, inPath, rfl⟩ := List.mem_map.mp member
    exact hopAdmissible_of_revalidated planned revalidated kept unreserved
      inPlan inPath atPlanning
  · rw [samePolicy]
    exact admissible.policy

end

namespace Registry

/--
No publication repeats a generation that the plan is bound to with other facts.
-/
def repeatsFacts
    (registry : Registry)
    (plan : CommunicationPlan)
    (planning : EvidenceSnapshot)
    (event : Event) : Bool :=
  match registry.effect event with
  | .linkPublished _ link =>
      (link.id, link.generation) ∉ plan.linkGenerations ||
        planning.links.all fun known =>
          known.id ≠ link.id || link.keepsFacts known
  | .endpointPublished _ endpoint =>
      (endpoint.id, endpoint.generation) ∉ plan.endpointGenerations ||
        planning.endpoints.all fun known =>
          known.id ≠ endpoint.id || endpoint.keepsFacts known
  | _ => true

variable
  {registry : Registry}
  {plan : CommunicationPlan}
  {planning : EvidenceSnapshot}

/-- The updates of a link's evidence leave its facts alone. -/
private theorem factsKept_updateLinks
    {current : EvidenceSnapshot}
    (kept : FactsKept plan planning current)
    {id : LinkId}
    {update : Link → Link}
    {updated : EvidenceSnapshot}
    (links : updated.links = updateLinks current.links id update)
    (endpoints : updated.endpoints = current.endpoints)
    (sameId : ∀ link, (update link).id = link.id)
    (sameGeneration : ∀ link, (update link).generation = link.generation)
    (sameFacts :
      ∀ link known,
        (update link).keepsFacts known = link.keepsFacts known) :
    FactsKept plan planning updated := by
  constructor
  · intro known member isBound link linkMember isId isGeneration
    rw [links] at linkMember
    obtain ⟨old, oldMember, rfl⟩ := List.mem_map.mp linkMember
    have facts := kept.links known member isBound old oldMember
    split_ifs at isId isGeneration ⊢
    · rw [sameId] at isId
      rw [sameGeneration] at isGeneration
      rw [sameFacts]
      exact facts isId isGeneration
    · exact facts isId isGeneration
  · intro known member isBound endpoint endpointMember
    rw [endpoints] at endpointMember
    exact kept.endpoints known member isBound endpoint endpointMember

private theorem factsKept_fenceWorker
    (kept : FactsKept plan planning registry.snap)
    (worker : WorkerId) :
    FactsKept plan planning (registry.fenceWorker worker).snap := by
  unfold fenceWorker
  split
  · exact ⟨kept.links, kept.endpoints⟩
  · constructor
    · intro known member isBound link linkMember
      exact kept.links known member isBound link
        (List.mem_of_mem_filter linkMember)
    · intro known member isBound endpoint endpointMember isId isGeneration
      obtain ⟨old, oldMember, rfl⟩ := List.mem_map.mp endpointMember
      have facts := kept.endpoints known member isBound old oldMember
      split_ifs at isId isGeneration ⊢
      · exact facts isId isGeneration
      · exact facts isId isGeneration

/-- Facts are kept by every event that repeats them. -/
theorem factsKept_apply
    (distinct : DistinctIds registry.snap)
    (kept : FactsKept plan planning registry.snap)
    {event : Event}
    (repeats : registry.repeatsFacts plan planning event = true) :
    FactsKept plan planning
      (registry.apply (registry.effect event)).snap := by
  cases isEffect : registry.effect event with
  | nothing => exact kept
  | enrolled => exact ⟨kept.links, kept.endpoints⟩
  | linkPublished worker published =>
      simp only [repeatsFacts, isEffect, Bool.or_eq_true, decide_eq_true_eq,
        List.all_eq_true] at repeats
      refine ⟨?_, kept.endpoints⟩
      intro known member isBound link linkMember sameId sameGeneration
      rcases (mem_replaceOrAppend distinct.links).mp linkMember with
        rfl | ⟨old, _⟩
      · rw [← sameId, ← sameGeneration] at isBound
        have facts := (repeats.resolve_left (not_not.mpr isBound)) known
          member
        exact facts.resolve_left (not_not.mpr sameId.symm)
      · exact kept.links known member isBound link old sameId
          sameGeneration
  | endpointPublished worker published =>
      simp only [repeatsFacts, isEffect, Bool.or_eq_true, decide_eq_true_eq,
        List.all_eq_true] at repeats
      refine ⟨kept.links, ?_⟩
      intro known member isBound endpoint endpointMember sameId
        sameGeneration
      rcases (mem_replaceOrAppend distinct.endpoints).mp endpointMember with
        rfl | ⟨old, _⟩
      · rw [← sameId, ← sameGeneration] at isBound
        have facts := (repeats.resolve_left (not_not.mpr isBound)) known
          member
        exact facts.resolve_left (not_not.mpr sameId.symm)
      · exact kept.endpoints known member isBound endpoint old sameId
          sameGeneration
  | capacityPublished id capacity =>
      exact factsKept_updateLinks kept rfl rfl (fun _ => rfl)
        (fun _ => rfl) (fun _ _ => rfl)
  | congestionPublished id congestion =>
      exact factsKept_updateLinks kept rfl rfl (fun _ => rfl)
        (fun _ => rfl) (fun _ _ => rfl)
  | disconnected socket worker => exact factsKept_fenceWorker kept worker

/-- No event reserves anything, reports a resource or changes the policy. -/
theorem snap_apply_frame
    (registry : Registry)
    (effect : RegistryEffect) :
    (registry.apply effect).snap.reservations =
        registry.snap.reservations ∧
      (registry.apply effect).snap.policyGeneration =
        registry.snap.policyGeneration ∧
      (registry.apply effect).snap.resourceCapacities =
        registry.snap.resourceCapacities := by
  cases effect with
  | disconnected socket worker =>
      simp only [apply, fenceWorker]
      split <;> exact ⟨rfl, rfl, rfl⟩
  | nothing | enrolled | endpointPublished | linkPublished
  | capacityPublished | congestionPublished => exact ⟨rfl, rfl, rfl⟩

end Registry

namespace Coordinator

variable
  {config : Config}
  {store : Option (List UInt8)}
  {trace past between : List CoordinatorStep}
  {before after final : Coordinator}
  {event : Event}
  {outputs : List Action}

/-- `EXECUTION_HANDOFF` of the plan is answered with success. -/
def handoffSucceeds (step : CoordinatorStep) (plan : CommunicationPlan) : Prop :=
  ∃ socket message record,
    step.event = .receive socket message ∧
    message.type = .executionHandoff ∧
    step.before.ledger.plans[message.planId]? = some record ∧
    record.plan = plan ∧
    .send socket (resultMessage true message.planId) ∈ step.outputs

theorem unreserved_of_run
    (run : ProcessRun config store trace final) :
    final.registry.snap.reservations = [] ∧
      final.registry.snap.policyGeneration = ⟨1⟩ := by
  refine registry_invariant run
    (fun registry =>
      registry.snap.reservations = [] ∧
        registry.snap.policyGeneration = ⟨1⟩) ⟨rfl, rfl⟩ ?_
  rintro registry event ⟨unreserved, policy⟩
  obtain ⟨sameReservations, samePolicy, _⟩ :=
    registry.snap_apply_frame (registry.effect event)
  exact ⟨sameReservations.trans unreserved, samePolicy.trans policy⟩

/-- A successful handoff passed revalidation. -/
theorem revalidated_of_handoffSucceeds
    (step : CoordinatorStep)
    (stepped :
      step? config step.before step.event = some (step.after, step.outputs))
    {plan : CommunicationPlan}
    (handed : handoffSucceeds step plan) :
    (revalidatePlan plan step.before.registry.snap).ok = true := by
  obtain ⟨socket, message, record, received, kind, found, rfl, answered⟩ :=
    handed
  rw [received] at stepped
  rw [outputs_of_receive stepped] at answered
  by_contra failed
  simp [handleMessage, kind, withLedger, Ledger.handleExecutionHandoff,
    found, failed, resultMessage] at answered

/-- A handoff that passes revalidation is answered with success. -/
theorem handoffSucceeds_of_revalidated
    {socket : Socket}
    {message : Message}
    {record : PlanRecord}
    (stepped :
      step? config before (.receive socket message) = some (after, outputs))
    (kind : message.type = .executionHandoff)
    (found : before.ledger.plans[message.planId]? = some record)
    (passed :
      (revalidatePlan record.plan before.registry.snap).ok = true) :
    handoffSucceeds ⟨before, .receive socket message, outputs, after⟩
      record.plan := by
  refine ⟨socket, message, record, rfl, kind, found, rfl, ?_⟩
  rw [outputs_of_receive stepped]
  simp [handleMessage, kind, withLedger, Ledger.handleExecutionHandoff,
    found, passed]

/-- `REVALIDATE` of the plan is answered with success. -/
def revalidationSucceeds
    (step : CoordinatorStep)
    (plan : CommunicationPlan) : Prop :=
  ∃ socket message record,
    step.event = .receive socket message ∧
    message.type = .revalidate ∧
    step.before.ledger.plans[message.planId]? = some record ∧
    record.plan = plan ∧
    .send socket (resultMessage true message.planId) ∈ step.outputs

/-- A successful answer means that revalidation passed. -/
theorem revalidated_of_revalidationSucceeds
    (step : CoordinatorStep)
    (stepped :
      step? config step.before step.event = some (step.after, step.outputs))
    {plan : CommunicationPlan}
    (succeeded : revalidationSucceeds step plan) :
    (revalidatePlan plan step.before.registry.snap).ok = true := by
  obtain ⟨socket, message, record, received, kind, found, rfl, answered⟩ :=
    succeeded
  rw [received] at stepped
  rw [outputs_of_receive stepped] at answered
  by_contra failed
  simp [handleMessage, kind, withLedger, Ledger.handleRevalidate, found,
    failed, resultMessage] at answered

theorem revalidationSucceeds_of_revalidated
    {socket : Socket}
    {message : Message}
    {record : PlanRecord}
    (stepped :
      step? config before (.receive socket message) = some (after, outputs))
    (kind : message.type = .revalidate)
    (found : before.ledger.plans[message.planId]? = some record)
    (passed :
      (revalidatePlan record.plan before.registry.snap).ok = true) :
    revalidationSucceeds ⟨before, .receive socket message, outputs, after⟩
      record.plan := by
  refine ⟨socket, message, record, rfl, kind, found, rfl, ?_⟩
  rw [outputs_of_receive stepped]
  simp [handleMessage, kind, withLedger, Ledger.handleRevalidate, found,
    passed]

/-- Planning leaves the registry as it is. -/
theorem registry_of_submits
    {step : CoordinatorStep}
    {request : CommunicationRequest}
    {plan : CommunicationPlan}
    (stepped :
      step? config step.before step.event = some (step.after, step.outputs))
    (submitted : submits step request plan) :
    step.after.registry = step.before.registry := by
  obtain ⟨socket, message, received, kind, _⟩ := submitted
  rw [registry_of_step? stepped, received]
  simp [Registry.next, Registry.receive, kind]

/--
Between the planning of a request and the handoff of its plan, let every
accepted publication that repeats a generation the plan is bound to repeat the
facts as well.  Then the primary path of a plan that is handed off passes the
hard filter on the snapshot of the handoff.
-/
theorem handoff_meets_hard_constraints
    (run : ProcessRun config store trace final) :
    ∀ past submission between handoff future request plan,
      trace = past ++ submission :: (between ++ handoff :: future) →
      submits submission request plan →
      (∀ step ∈ between,
        step.before.registry.repeatsFacts plan
          submission.before.registry.snap step.event = true) →
      handoffSucceeds handoff plan →
      ∀ path ∈ plan.candidatePaths,
        path.id = plan.primaryPath →
        (evaluateCandidateFeasibility request handoff.before.registry.snap
          path.candidate config.bounds).feasible = true := by
  rintro past submission between handoff future request plan rfl submitted
    repeats handed path inPlan _
  obtain ⟨pastRun, submissionStepped, laterRun⟩ := run.cut
  obtain ⟨betweenRun, handoffStepped, _⟩ := laterRun.cut
  have planned :=
    (produced_of_submits submission submissionStepped submitted).1.planned
  have planningRun := pastRun.snoc submissionStepped
  have sameRegistry := registry_of_submits submissionStepped submitted
  have kept :
      FactsKept plan submission.before.registry.snap
          handoff.before.registry.snap ∧
        DistinctIds handoff.before.registry.snap := by
    refine betweenRun.invariant
      (fun state =>
        FactsKept plan submission.before.registry.snap state.registry.snap ∧
          DistinctIds state.registry.snap) ?_ ?_
    · rw [sameRegistry]
      exact ⟨factsKept_refl (distinctIds_of_run pastRun) plan,
        distinctIds_of_run pastRun⟩
    · rintro step member stepped ⟨kept, distinct⟩
      rw [registry_of_step? stepped, Registry.next_eq_apply]
      exact ⟨Registry.factsKept_apply distinct kept (repeats step member),
        Registry.distinctIds_apply distinct _⟩
  have handoffRun := planningRun.append betweenRun
  obtain ⟨unreserved, policy⟩ := unreserved_of_run handoffRun
  have passed := revalidated_of_handoffSucceeds handoff handoffStepped handed
  exact planned.feasible_of_revalidated (revalidated_of_ok passed) kept.1
    unreserved (policy.trans (unreserved_of_run pastRun).2.symm) inPlan

/-! ## A publication between planning and handoff -/

private theorem ledger_of_publishLink
    {socket : Socket}
    {message : Message}
    (stepped :
      step? config before (.receive socket message) = some (after, outputs))
    (kind : message.type = .publishLink) :
    after.ledger = before.ledger := by
  cases taken_of_step? stepped with
  | receive _ _ listening =>
      rw [ledger_resume]
      simp [handleMessage, kind, withRegistry]

/-- Plan a request, publish its link again, and hand the plan off. -/
def republicationScenario
    (link : Link)
    (test : Coordinator → CommunicationPlan → Coordinator → Coordinator →
      Bool) : Bool :=
  (replay? (step? defaultConfig) (start none) (deployment ⟨4⟩ ⟨1⟩)).any
    fun reached =>
      (step? defaultConfig reached.2
        (.receive ⟨4⟩ (CoordinatorClient.submitRequest
          (directRequest ⟨5⟩)))).any fun submitted =>
        (step? defaultConfig submitted.1
          (.receive ⟨4⟩ (CoordinatorClient.publishLink ⟨1⟩ ⟨1⟩ link))).any
          fun published =>
            (step? defaultConfig published.1
              (.receive ⟨4⟩ (CoordinatorClient.executionHandoff ⟨1⟩))).any
              fun _ =>
                reached.2.ledger.plans[(⟨1⟩ : CommunicationPlanId)]?.isNone &&
                submitted.1.ledger.plans[(⟨1⟩ : CommunicationPlanId)]?.any
                  fun record =>
                    (revalidatePlan record.plan
                      published.1.registry.snap).ok &&
                    test reached.2 record.plan submitted.1 published.1

private theorem exists_handoff_of_scenario
    {link : Link}
    {test : Coordinator → CommunicationPlan → Coordinator → Coordinator →
      Bool}
    (checked : republicationScenario link test = true) :
    ∃ past submission publication handoff plan,
      ProcessRun defaultConfig none
        (past ++ submission :: ([publication] ++ [handoff]))
        handoff.after ∧
      submits submission (directRequest ⟨5⟩) plan ∧
      publication.event =
        .receive ⟨4⟩ (CoordinatorClient.publishLink ⟨1⟩ ⟨1⟩ link) ∧
      handoffSucceeds handoff plan ∧
      test submission.before plan publication.before handoff.before =
        true := by
  obtain ⟨past, planning, reached, holds⟩ := exists_run_of_replay? checked
  obtain ⟨⟨submitted, replies⟩, submitStepped, holds⟩ :=
    (Option.any_eq_true _ _).mp holds
  obtain ⟨⟨published, answers⟩, publishStepped, holds⟩ :=
    (Option.any_eq_true _ _).mp holds
  obtain ⟨⟨handed, outputs⟩, handoffStepped, holds⟩ :=
    (Option.any_eq_true _ _).mp holds
  rw [Bool.and_eq_true, Option.isNone_iff_eq_none] at holds
  obtain ⟨absent, holds⟩ := holds
  obtain ⟨record, entered, holds⟩ := (Option.any_eq_true _ _).mp holds
  rw [Bool.and_eq_true] at holds
  have kept := ledger_of_publishLink publishStepped rfl
  have found :
      published.ledger.plans[(⟨1⟩ : CommunicationPlanId)]? =
        some record := by
    rw [kept]
    exact entered
  have whole := ((reached.snoc submitStepped).snoc publishStepped).snoc
    handoffStepped
  simp only [List.append_assoc, List.singleton_append] at whole
  exact ⟨past, _, _, _, record.plan, whole,
    submits_of_entered submitStepped rfl entered
      (by simp [planState?, absent, entered]), rfl,
    handoffSucceeds_of_revalidated handoffStepped rfl found holds.1, holds.2⟩

/-- The link is published again with more capacity. -/
theorem handoff_after_widening_is_feasible :
    ∃ past submission publication handoff plan path,
      ProcessRun defaultConfig none
        (past ++ submission :: ([publication] ++ [handoff]))
        handoff.after ∧
      submits submission (directRequest ⟨5⟩) plan ∧
      handoffSucceeds handoff plan ∧
      path ∈ plan.candidatePaths ∧
      path.id = plan.primaryPath ∧
      (evaluateCandidateFeasibility (directRequest ⟨5⟩)
        handoff.before.registry.snap path.candidate
        defaultConfig.bounds).feasible = true := by
  have checked :
      republicationScenario (mkLink ⟨7⟩ ⟨1⟩ ⟨1⟩ ⟨2⟩ .tcp 2000)
        (fun planning plan publishing _ =>
          publishing.registry.repeatsFacts plan planning.registry.snap
            (.receive ⟨4⟩ (CoordinatorClient.publishLink ⟨1⟩ ⟨1⟩
              (mkLink ⟨7⟩ ⟨1⟩ ⟨1⟩ ⟨2⟩ .tcp 2000))) &&
          plan.candidatePaths.any fun path =>
            path.id = plan.primaryPath) = true := by
    decide +kernel
  obtain ⟨past, submission, publication, handoff, plan, run, submitted,
    isPublication, handed, holds⟩ := exists_handoff_of_scenario checked
  rw [Bool.and_eq_true, List.any_eq_true] at holds
  obtain ⟨repeats, path, inPlan, isPrimary⟩ := holds
  rw [decide_eq_true_eq] at isPrimary
  refine ⟨past, submission, publication, handoff, plan, path, run,
    submitted, handed, inPlan, isPrimary, ?_⟩
  refine handoff_meets_hard_constraints run past submission [publication]
    handoff [] _ plan rfl submitted ?_ handed path inPlan isPrimary
  intro step isStep
  rw [List.mem_singleton.mp isStep, isPublication]
  exact repeats

/-- The link is published again under its generation, now without capacity. -/
theorem handoff_over_link_without_capacity :
    ∃ past submission publication handoff plan path,
      ProcessRun defaultConfig none
        (past ++ submission :: ([publication] ++ [handoff]))
        handoff.after ∧
      submits submission (directRequest ⟨5⟩) plan ∧
      handoffSucceeds handoff plan ∧
      path ∈ plan.candidatePaths ∧
      path.id = plan.primaryPath ∧
      (evaluateCandidateFeasibility (directRequest ⟨5⟩)
        handoff.before.registry.snap path.candidate
        defaultConfig.bounds).feasible = false := by
  have checked :
      republicationScenario (mkLink ⟨7⟩ ⟨1⟩ ⟨1⟩ ⟨2⟩ .tcp 0)
        (fun _ plan _ handing =>
          plan.candidatePaths.any fun path =>
            path.id = plan.primaryPath &&
            !(evaluateCandidateFeasibility (directRequest ⟨5⟩)
              handing.registry.snap path.candidate
              defaultConfig.bounds).feasible) = true := by
    decide +kernel
  obtain ⟨past, submission, publication, handoff, plan, run, submitted, _,
    handed, holds⟩ := exists_handoff_of_scenario checked
  obtain ⟨path, inPlan, infeasible⟩ := List.any_eq_true.mp holds
  rw [Bool.and_eq_true, decide_eq_true_eq, Bool.not_eq_true'] at infeasible
  exact ⟨past, submission, publication, handoff, plan, path, run, submitted,
    handed, inPlan, infeasible⟩

end Coordinator

end CommunicationPlanner
