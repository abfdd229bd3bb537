import CommunicationPlanner.Failover

namespace CommunicationPlanner

open OrderedCollections Allocation TransitionRun

/-!
# Planning after evidence is gained

Gaining evidence is losing it backwards: a link that comes up, a worker that
registers for the first time, an endpoint that is published as ready.  What was
planned without the new evidence is still there with it, at the same cost, so a
request that is submitted again is planned again, and not worse.
-/

section

variable
  {request : CommunicationRequest}
  {before after : EvidenceSnapshot}
  {weights : RankingWeights}
  {bounds : Bounds}
  {lostLinks : LinkId → Bool}
  {lostEndpoints : EndpointId → Bool}

/--
Of two plans for one request, the one with more evidence behind it has a primary
path that is not ranked behind, since it ranks the other's as well; and what it
lists of old paths heads the other.
-/
theorem Loses.primary_not_behind
    (loses : Loses lostLinks lostEndpoints before after)
    (distinctBefore : (before.links.map fun link => link.id).Nodup)
    (distinctAfter : (after.links.map fun link => link.id).Nodup)
    (shape : request.shape = .pointToPoint ∨ request.shape = .staged)
    (unicast : request.allowMulticast = false)
    (fits :
      Set.encard {candidate | RequestPath request before bounds candidate} ≤
        (bounds.maxCandidates.toNat : ℕ∞))
    {counters remaining : Counters}
    {outcome : PlanOutcome}
    {plan : CommunicationPlan}
    (ran :
      (planCommunication request after weights bounds).run counters =
        .ok (outcome, remaining))
    (success : outcome.success = true)
    (isPlan : outcome.plan = some plan)
    (again : Counters) :
    ∃ replanned left replan primary replanPrimary,
      (planCommunication request before weights bounds).run again =
        .ok (replanned, left) ∧
      replanned.success = true ∧
      replanned.plan = some replan ∧
      plan.primary? = some primary ∧
      replan.primary? = some replanPrimary ∧
      keyLess (candidateKey request after weights bounds primary.candidate)
        (candidateKey request before weights bounds
          replanPrimary.candidate) = false ∧
      (replan.candidatePaths.filter fun path =>
          path.candidate.survives lostLinks lostEndpoints).map
        Path.offer <+: plan.candidatePaths.map Path.offer := by
  have valid := validate_of_run ran
  obtain ⟨destination, destinations⟩ :=
    destinations_eq_singleton valid shape unicast
  have paths := requestPath_eq_linkPath destinations before bounds
  rw [paths] at fits
  have toPoint := fun snapshot =>
    planCommunication_eq_planPointToPoint snapshot weights bounds valid shape
      unicast
  rw [toPoint] at ran
  rw [toPoint]
  have filtered := @Loses.ranking_eq_filter request before after weights bounds
    request.source destination lostLinks lostEndpoints loses distinctBefore
    distinctAfter fits
  have ranked :
      (assess request after weights bounds request.source
        destination).ranking ≠ [] :=
    (ensures_planPointToPoint_ranking destinations _ _ _ ran).1.mp success
  obtain ⟨best, rest, ranking⟩ := List.exists_cons_of_ne_nil ranked
  have competes :
      best ∈
        (assess request before weights bounds request.source
          destination).ranking := by
    have member : best ∈ best :: rest := by simp
    rw [← ranking, filtered] at member
    exact (List.mem_filter.mp member).1
  obtain ⟨richest, others, richer⟩ :=
    List.exists_cons_of_ne_nil (List.ne_nil_of_mem competes)
  have succeeds :
      Succeeds (planPointToPoint request before weights bounds) :=
    succeeds_planPointToPoint destinations
  obtain ⟨replanned, left, reran⟩ := succeeds again
  obtain ⟨_, same, primary, isSame, isPrimary, key⟩ :=
    primary_of_planPointToPoint destinations ran ranking
  rw [isPlan] at isSame
  cases isSame
  obtain ⟨replanSuccess, replan, replanPrimary, isReplan, isReplanPrimary,
    replanKey⟩ := primary_of_planPointToPoint destinations reran richer
  refine ⟨replanned, left, replan, primary, replanPrimary, reran,
    replanSuccess, isReplan, isPrimary, isReplanPrimary, ?_, ?_⟩
  · rw [key, replanKey, ← Bool.not_eq_true, keyLess_iff_rank
      (numeric_of_mem_ranking (ranking ▸ List.mem_cons_self))
      (numeric_of_mem_ranking (richer ▸ List.mem_cons_self)), not_lt]
    have ascending := @pairwise_rank_ranking request before weights bounds
      request.source destination
    rw [richer] at ascending competes
    rcases List.mem_cons.mp competes with rfl | inOthers
    · exact le_refl _
    · exact (List.pairwise_cons.mp ascending).1 best inOthers
  · obtain ⟨_, planned⟩ :=
      ensures_planPointToPoint_offers destinations _ _ _ ran
    obtain ⟨same, isSame, offers⟩ := planned success
    rw [isPlan] at isSame
    cases isSame
    obtain ⟨_, replans⟩ :=
      ensures_planPointToPoint_offers destinations _ _ _ reran
    obtain ⟨again, isAgain, reoffers⟩ := replans replanSuccess
    rw [isReplan] at isAgain
    cases isAgain
    rw [map_offer_filter, reoffers, offers,
      loses.offers_eq_filter distinctBefore distinctAfter fits]
    exact filter_take_prefix _ _ _

end

namespace RegistryEffect

/-- The record can be used by no candidate. -/
def unusableLink (link : Link) : Bool :=
  !link.health.healthy || link.congestion.hardLimitExceeded

/-- The effect adds evidence, and takes none away. -/
def gainsOnly (snapshot : EvidenceSnapshot) : RegistryEffect → Bool
  | .nothing => true
  | .enrolled _ worker _ _ =>
      snapshot.workerBoots[worker]?.isNone &&
        snapshot.sourceBoots[(⟨worker.value⟩ : SourceId)]?.isNone
  | .endpointPublished _ endpoint =>
      snapshot.endpointMap[endpoint.id]?.all fun known =>
        !(known.reachable && known.ready)
  | .linkPublished _ link =>
      snapshot.linkMap[link.id]?.all fun known =>
        unusableLink known && known.source = link.source &&
          known.destination = link.destination
  | .congestionPublished link _ =>
      snapshot.linkMap[link]?.all fun known =>
        known.congestion.hardLimitExceeded
  | .capacityPublished _ _ | .disconnected _ _ => false

/-- The links that could not be used before the effect. -/
def gainedLinks (effect : RegistryEffect) (id : LinkId) : Bool :=
  match effect with
  | .linkPublished _ link => link.id = id
  | .congestionPublished link _ => link = id
  | _ => false

/-- The endpoints that could not be used before the effect. -/
def gainedEndpoints
    (registry : Registry)
    (effect : RegistryEffect)
    (id : EndpointId) : Bool :=
  match effect with
  | .endpointPublished _ endpoint => endpoint.id = id
  | .enrolled _ worker _ _ =>
      registry.snap.endpointMap[id]?.any (publishedBy worker)
  | _ => false

end RegistryEffect

namespace Registry

variable
  {registry : Registry}
  {snapshot : EvidenceSnapshot}

/-! ## Effects that only add evidence, read backwards -/

theorem gains_publishEndpoint
    (distinct : DistinctIds snapshot)
    {endpoint : Endpoint}
    (unusable :
      ∀ known,
        snapshot.endpointMap[endpoint.id]? = some known →
        (known.reachable && known.ready) = false) :
    Loses (fun _ => false) (fun id => endpoint.id = id)
      (publishEndpoint snapshot endpoint) snapshot := by
  have found :
      ∀ id,
        (publishEndpoint snapshot endpoint).endpointMap[id]? =
          if endpoint.id = id then
            some endpoint
          else
            snapshot.endpointMap[id]? :=
    getElem?_indexBy_replaceOrAppend distinct.endpoints
  exact
    { linkKept := fun _ _ => rfl
      linkLost := fun _ _ lost => by cases lost
      endpointKept := by
        intro id kept
        rw [found, if_neg (of_decide_eq_false kept)]
      freshnessKept := fun _ _ _ _ => rfl
      endpointLost := by
        intro id known transport lost lookup admissible
        have named : endpoint.id = id := of_decide_eq_true lost
        have refused := unusable known (named ▸ lookup)
        rw [admissible.reachable, admissible.ready] at refused
        cases refused
      reservations := rfl
      policyGeneration := rfl }

theorem gains_publishLink
    (distinct : DistinctIds snapshot)
    {link : Link}
    (replaces :
      ∀ known,
        snapshot.linkMap[link.id]? = some known →
        (known.health.healthy = false ∨
            known.congestion.hardLimitExceeded = true) ∧
          known.source = link.source ∧
          known.destination = link.destination) :
    Loses (fun id => link.id = id) (fun _ => false)
      (publishLink snapshot link) snapshot := by
  have found :
      ∀ id,
        (publishLink snapshot link).linkMap[id]? =
          if link.id = id then some link else snapshot.linkMap[id]? :=
    getElem?_indexBy_replaceOrAppend distinct.links
  exact
    { linkKept := by
        intro id kept
        rw [found, if_neg (of_decide_eq_false kept)]
      linkLost := by
        intro id known lost lookup
        have named : link.id = id := of_decide_eq_true lost
        subst named
        obtain ⟨unusable, sameSource, sameDestination⟩ := replaces known lookup
        exact ⟨unusable, link, by rw [found, if_pos rfl], sameSource.symm,
          sameDestination.symm⟩
      endpointKept := fun _ _ => rfl
      freshnessKept := fun _ _ _ _ => rfl
      endpointLost := fun _ _ _ lost => by cases lost
      reservations := rfl
      policyGeneration := rfl }

theorem gains_congest
    {first second : EvidenceSnapshot}
    {congested : LinkId}
    {congestion : Congestion}
    (exceeded :
      ∀ known,
        first.linkMap[congested]? = some known →
        known.congestion.hardLimitExceeded = true)
    (links :
      second.links =
        updateLinks first.links congested fun link =>
          { link with congestion := congestion })
    (endpoints : second.endpoints = first.endpoints)
    (fresh :
      ∀ endpoint, endpointFresh endpoint second = endpointFresh endpoint first)
    (reservations : second.reservations = first.reservations)
    (policyGeneration : second.policyGeneration = first.policyGeneration) :
    Loses (fun id => congested = id) (fun _ => false) second first := by
  have found := getElem?_linkMap_congested links
  exact
    { linkKept := by
        intro id kept
        rw [found]
        cases known : first.linkMap[id]? with
        | none => rfl
        | some link =>
            obtain ⟨_, rfl⟩ := mem_of_getElem?_indexBy known
            have other : link.id ≠ congested :=
              Ne.symm (of_decide_eq_false kept)
            simp [other]
      linkLost := by
        intro id link lost lookup
        have named : congested = id := of_decide_eq_true lost
        subst named
        refine ⟨.inr (exceeded link lookup),
          { link with congestion := congestion }, ?_, rfl, rfl⟩
        obtain ⟨_, sameId⟩ := mem_of_getElem?_indexBy lookup
        rw [found, lookup, Option.map_some, if_pos sameId]
      endpointKept := by
        intro id _
        unfold EvidenceSnapshot.endpointMap
        rw [endpoints]
      freshnessKept := fun _ endpoint _ _ => (fresh endpoint).symm
      endpointLost := fun _ _ _ lost => by cases lost
      reservations := reservations.symm
      policyGeneration := policyGeneration.symm }

/-- Whether a boot is current, after another key was assigned. -/
private theorem current_insert
    {κ β : Type}
    [LinearOrder κ]
    [BEq β]
    (boots : Map κ β)
    (assigned wanted : κ)
    (boot new : β)
    (unconstrained null : Bool)
    (other : (!unconstrained && decide (assigned = wanted)) = false) :
    (unconstrained ||
        (!null && (boots.insert assigned new)[wanted]? == some boot)) =
      (unconstrained || (!null && boots[wanted]? == some boot)) := by
  cases unconstrained with
  | true => rfl
  | false =>
      have different : assigned ≠ wanted := by simpa using other
      rw [Std.ExtTreeMap.getElem?_insert]
      simp only [Std.LawfulEqCmp.compare_eq_iff_eq, if_neg different]

/-- A worker that registers for the first time. -/
theorem gains_enroll
    {socket : Socket}
    {worker : WorkerId}
    {boot : WorkerBootId}
    {name : Text}
    (unknown : registry.snap.workerBoots[worker]? = none)
    (unsourced :
      registry.snap.sourceBoots[(⟨worker.value⟩ : SourceId)]? = none) :
    Loses (fun _ => false)
      (fun id =>
        registry.snap.endpointMap[id]?.any
          (RegistryEffect.publishedBy worker))
      (registry.enroll socket worker boot name).snap registry.snap where
  linkKept _ _ := rfl
  linkLost _ _ lost := by cases lost
  endpointKept _ _ := rfl
  freshnessKept := by
    intro id endpoint kept found
    have known : registry.snap.endpointMap[id]? = some endpoint := found
    rw [known, Option.any_some, RegistryEffect.publishedBy,
      Bool.or_eq_false_iff] at kept
    unfold endpointFresh
    simp only [enroll]
    rw [current_insert _ _ _ _ _ _ _ kept.1,
      current_insert _ _ _ _ _ _ _ kept.2]
  endpointLost := by
    intro id endpoint transport lost found admissible
    rw [found, Option.any_some, RegistryEffect.publishedBy] at lost
    have fresh := admissible.fresh
    simp only [endpointFresh, Bool.and_eq_true, Bool.or_eq_true] at fresh
    simp only [Bool.or_eq_true, Bool.and_eq_true, Bool.not_eq_true',
      decide_eq_true_eq] at lost
    rcases lost with ⟨booted, rfl⟩ | ⟨sourced, same⟩
    · simp [booted, unknown] at fresh
    · simp [sourced, ← same, unsourced] at fresh
  reservations := rfl
  policyGeneration := rfl

/-- An effect that adds evidence, read backwards, loses what it added. -/
theorem gains_apply
    (distinct : DistinctIds registry.snap)
    {effect : RegistryEffect}
    (gainsOnly : effect.gainsOnly registry.snap = true) :
    Loses effect.gainedLinks (effect.gainedEndpoints registry)
      (registry.apply effect).snap registry.snap := by
  cases effect with
  | nothing => exact Loses.refl _
  | capacityPublished | disconnected => cases gainsOnly
  | enrolled socket worker boot name =>
      simp only [RegistryEffect.gainsOnly, Bool.and_eq_true,
        Option.isNone_iff_eq_none] at gainsOnly
      exact gains_enroll gainsOnly.1 gainsOnly.2
  | endpointPublished worker endpoint =>
      simp only [RegistryEffect.gainsOnly, Option.all_eq_true,
        Bool.not_eq_true'] at gainsOnly
      exact gains_publishEndpoint distinct gainsOnly
  | linkPublished worker link =>
      simp only [RegistryEffect.gainsOnly, RegistryEffect.unusableLink,
        Option.all_eq_true, Bool.and_eq_true, Bool.or_eq_true,
        Bool.not_eq_true', decide_eq_true_eq] at gainsOnly
      refine gains_publishLink distinct ?_
      intro known lookup
      obtain ⟨⟨unusable, sameSource⟩, sameDestination⟩ :=
        gainsOnly known lookup
      exact ⟨unusable, sameSource, sameDestination⟩
  | congestionPublished congested congestion =>
      simp only [RegistryEffect.gainsOnly, Option.all_eq_true] at gainsOnly
      exact gains_congest gainsOnly rfl rfl (fun _ => rfl) rfl rfl

end Registry

namespace Coordinator

variable
  {config : Config}
  {store : Option (List UInt8)}
  {trace : List CoordinatorStep}
  {request : CommunicationRequest}
  {plan : CommunicationPlan}

/-! ## Runs that only gain evidence -/

/-- The step adds evidence, if it changes the registry at all. -/
def gainsEvidence (step : CoordinatorStep) : Bool :=
  (step.before.registry.effect step.event).gainsOnly
    step.before.registry.snap

/-- One of the steps makes the link usable, or may have. -/
def gainedLinks (trace : List CoordinatorStep) (id : LinkId) : Bool :=
  trace.any fun step =>
    (step.before.registry.effect step.event).gainedLinks id

/-- One of the steps makes the endpoint usable, or may have. -/
def gainedEndpoints (trace : List CoordinatorStep) (id : EndpointId) : Bool :=
  trace.any fun step =>
    (step.before.registry.effect step.event).gainedEndpoints
      step.before.registry id

/-- The path rests on nothing that the steps made usable. -/
def predatesGains (trace : List CoordinatorStep) (path : Path) : Bool :=
  path.candidate.survives (gainedLinks trace) (gainedEndpoints trace)

/-- What a run gains is what its steps gain. -/
theorem gains_of_run
    {before after : Coordinator}
    (run : Run (step? config) before trace after)
    (distinct : DistinctIds before.registry.snap)
    (gains : ∀ step ∈ trace, gainsEvidence step = true) :
    DistinctIds after.registry.snap ∧
      Loses (gainedLinks trace) (gainedEndpoints trace) after.registry.snap
        before.registry.snap := by
  refine run.invariant_trace
    (fun trace state =>
      DistinctIds state.registry.snap ∧
        Loses (gainedLinks trace) (gainedEndpoints trace) state.registry.snap
          before.registry.snap) ⟨distinct, Loses.refl _⟩ ?_
  rintro earlier previous event next outputs _ member ⟨distinctHere, soFar⟩
    stepped
  have changed : next.registry =
      previous.registry.apply (previous.registry.effect event) :=
    (registry_of_step? stepped).trans (previous.registry.next_eq_apply event)
  rw [changed]
  refine ⟨Registry.distinctIds_apply distinctHere _, ?_⟩
  have last := Registry.gains_apply distinctHere (gains _ member)
  have added := last.trans soFar
  unfold gainedLinks gainedEndpoints at added ⊢
  simp only [List.any_append, List.any_cons, List.any_nil, Bool.or_false]
  simpa only [Bool.or_comm] using added

/--
A request that was planned is submitted again, and all that has happened to the
evidence in between is that some was gained.  It is planned again, the new
primary path is not ranked behind the old one, and of the paths that were there
before the new plan lists none that the old one would not have listed first.
-/
theorem replanning_is_never_worse
    {past between : List CoordinatorStep}
    {submission resubmission : CoordinatorStep}
    {final : Coordinator}
    (run :
      ProcessRun config store
        (past ++ submission :: (between ++ [resubmission])) final)
    (submitted : submits submission request plan)
    (shape : request.shape = .pointToPoint ∨ request.shape = .staged)
    (unicast : request.allowMulticast = false)
    (fits :
      Set.encard {candidate |
          RequestPath request resubmission.before.registry.snap config.bounds
            candidate} ≤
        (config.bounds.maxCandidates.toNat : ℕ∞))
    (gains : ∀ step ∈ between, gainsEvidence step = true)
    {socket : Socket}
    {message : Message}
    (received : resubmission.event = .receive socket message)
    (kind : message.type = .submitRequest)
    (same : message.request = request)
    (open_ : request.id ∉ resubmission.before.ledger.cancelled) :
    ∃ replan primary replanPrimary,
      submits resubmission request replan ∧
      plan.primary? = some primary ∧
      replan.primary? = some replanPrimary ∧
      keyLess
          (candidateKey request submission.before.registry.snap config.weights
            config.bounds primary.candidate)
          (candidateKey request resubmission.before.registry.snap
            config.weights config.bounds replanPrimary.candidate) = false ∧
      (replan.candidatePaths.filter (predatesGains between)).map
        Path.offer <+: plan.candidatePaths.map Path.offer := by
  subst same
  obtain ⟨pastRun, submissionStepped, laterRun⟩ := run.cut
  obtain ⟨betweenRun, resubmissionStepped, _⟩ := laterRun.cut
  have distinct := distinctIds_of_run pastRun
  have unchanged := registry_of_submits submissionStepped submitted
  obtain ⟨distinctAfter, gained⟩ :=
    gains_of_run betweenRun (unchanged ▸ distinct) gains
  rw [unchanged] at gained
  obtain ⟨⟨outcome, remaining, ran, success, isPlan⟩, _⟩ :=
    produced_of_submits submission submissionStepped submitted
  obtain ⟨replanned, left, replan, primary, replanPrimary, reran, again,
    isReplan, isPrimary, isReplanPrimary, notBehind, listed⟩ :=
    gained.primary_not_behind distinctAfter.links distinct.links shape unicast
      fits ran success isPlan resubmission.before.ledger.counters
  exact ⟨replan, primary, replanPrimary,
    submits_of_planned resubmissionStepped received kind
      (id_of_validate (validate_of_run ran)) open_ reran again isReplan,
    isPrimary, isReplanPrimary, notBehind, listed⟩

/-- When the second worker joins, the transfer can move to its link. -/
theorem wider_link_is_not_worse :
    ∃ past between submission resubmission final plan replan,
      ProcessRun defaultConfig none
        (past ++ submission :: (between ++ [resubmission])) final ∧
      submits submission (directRequest ⟨5⟩) plan ∧
      submits resubmission (directRequest ⟨5⟩) replan ∧
      (replan.candidatePaths.filter (predatesGains between)).map
        Path.offer <+: plan.candidatePaths.map Path.offer := by
  have checked :
      (replay? (step? defaultConfig) (start none)
        (deployment ⟨4⟩ ⟨1⟩)).any
        (fun reached =>
          reached.2.planState? ⟨1⟩ = none &&
          (step? defaultConfig reached.2
            (.receive ⟨4⟩
              (CoordinatorClient.submitRequest (directRequest ⟨5⟩)))).any
            fun submitted =>
              submitted.1.ledger.plans[(⟨1⟩ : CommunicationPlanId)]?.isSome &&
              (replay? (step? defaultConfig) submitted.1
                widening).any fun gained =>
                gained.1.all gainsEvidence &&
                (enumerateCandidatePaths gained.2.registry.snap ⟨1⟩ ⟨2⟩
                  defaultConfig.bounds).length <
                    defaultConfig.bounds.maxCandidates.toNat &&
                (⟨5⟩ : CommunicationRequestId) ∉ gained.2.ledger.cancelled &&
                (step? defaultConfig gained.2
                  (.receive ⟨4⟩
                    (CoordinatorClient.submitRequest
                      (directRequest ⟨5⟩)))).isSome) = true := by
    decide +kernel
  obtain ⟨past, planning, pastRun, holds⟩ := exists_run_of_replay? checked
  rw [Bool.and_eq_true, decide_eq_true_eq] at holds
  obtain ⟨absent, holds⟩ := holds
  obtain ⟨⟨submitted, replies⟩, stepped, holds⟩ :=
    (Option.any_eq_true _ _).mp holds
  rw [Bool.and_eq_true] at holds
  obtain ⟨present, holds⟩ := holds
  obtain ⟨record, entered⟩ := Option.isSome_iff_exists.mp present
  obtain ⟨between, gained, betweenRun, holds⟩ := exists_run_of_replay? holds
  simp only [Bool.and_eq_true, decide_eq_true_eq, List.all_eq_true] at holds
  obtain ⟨⟨⟨gains, short⟩, open_⟩, again⟩ := holds
  obtain ⟨⟨resubmitted, answers⟩, restepped⟩ :=
    Option.isSome_iff_exists.mp again
  have absentBefore : planning.planState? ⟨1⟩ = none := absent
  have planned := submits_of_entered stepped rfl entered (by
    rw [absentBefore, planState?, entered]
    simp)
  have run :=
    (pastRun.snoc stepped).append (betweenRun.snoc restepped)
  rw [List.append_assoc, List.singleton_append] at run
  have paths :
      RequestPath (directRequest ⟨5⟩) gained.registry.snap
          defaultConfig.bounds =
        LinkPath gained.registry.snap ⟨1⟩ ⟨2⟩ defaultConfig.bounds :=
    requestPath_eq_linkPath rfl _ _
  obtain ⟨replan, _, _, isReplan, _, _, _, listed⟩ :=
    replanning_is_never_worse run planned (.inl rfl) rfl
      (paths ▸ encard_linkPaths_le_of_length_lt short) gains rfl rfl rfl open_
  exact ⟨past, between, _, _, resubmitted, record.plan, replan, run, planned,
    isReplan, listed⟩

end Coordinator

end CommunicationPlanner
