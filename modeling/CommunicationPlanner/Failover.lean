import CommunicationPlanner.EvidenceLoss
import CommunicationPlanner.RegistryEffects

namespace CommunicationPlanner

open OrderedCollections TransitionRun

/-!
# Failover

A worker's connection ends, a link is published again as unhealthy, its
congestion hits the hard limit, an endpoint is published as not ready: such
events only take evidence away.  A client that submits its request again after
any number of them is answered with the fallback paths that survived, in the
order in which the first plan listed them.
-/

namespace RegistryEffect

/-- The effect takes evidence away, and does nothing else to the planner. -/
def losesOnly (snapshot : EvidenceSnapshot) : RegistryEffect → Bool
  | .nothing | .disconnected _ _ => true
  | .endpointPublished _ endpoint => !(endpoint.reachable && endpoint.ready)
  | .linkPublished _ link =>
      (!link.health.healthy || link.congestion.hardLimitExceeded) &&
        snapshot.linkMap[link.id]?.any fun known =>
          known.source = link.source && known.destination = link.destination
  | .congestionPublished _ congestion => congestion.hardLimitExceeded
  | .enrolled _ _ _ _ | .capacityPublished _ _ => false

/-- The links that the effect makes unusable. -/
def lostLinks
    (registry : Registry)
    (effect : RegistryEffect)
    (id : LinkId) : Bool :=
  match effect with
  | .linkPublished _ link => link.id = id
  | .congestionPublished link _ => link = id
  | .disconnected _ worker =>
      registry.workers[worker]?.any fun info => id ∈ info.links
  | _ => false

/-- The publisher of the endpoint is the worker, as its boots tell. -/
def publishedBy (worker : WorkerId) (endpoint : Endpoint) : Bool :=
  (!endpoint.workerBoot.isNull && worker = endpoint.worker) ||
    (!endpoint.sourceBoot.isNull && ⟨worker.value⟩ = endpoint.source)

/-- The endpoints that the effect makes unusable. -/
def lostEndpoints
    (registry : Registry)
    (effect : RegistryEffect)
    (id : EndpointId) : Bool :=
  match effect with
  | .endpointPublished _ endpoint => endpoint.id = id
  | .disconnected _ worker =>
      (registry.workers[worker]?.any fun info => id ∈ info.endpoints) ||
        registry.snap.endpointMap[id]?.any (publishedBy worker)
  | _ => false

end RegistryEffect

namespace Registry

/-! ## Looking up after a change -/

/-- What was replaced or appended is found, and so is everything else. -/
theorem getElem?_indexBy_replaceOrAppend
    {κ α : Type}
    [LinearOrder κ]
    {key : α → κ}
    {item : α}
    {items : List α}
    (distinct : (items.map key).Nodup)
    (wanted : κ) :
    (indexBy key (replaceOrAppend key item items))[wanted]? =
      if key item = wanted then
        some item
      else
        (indexBy key items)[wanted]? := by
  have distinctAfter := @nodup_map_replaceOrAppend κ α _ key item items distinct
  split_ifs with named
  · subst named
    exact getElem?_indexBy_of_mem distinctAfter
      ((mem_replaceOrAppend distinct).mpr (.inl rfl))
  · apply Option.ext
    intro found
    constructor
    · intro lookup
      obtain ⟨member, rfl⟩ := mem_of_getElem?_indexBy lookup
      rcases (mem_replaceOrAppend distinct).mp member with rfl | ⟨inItems, _⟩
      · exact (named rfl).elim
      · exact getElem?_indexBy_of_mem distinct inItems
    · intro lookup
      obtain ⟨member, rfl⟩ := mem_of_getElem?_indexBy lookup
      exact getElem?_indexBy_of_mem distinctAfter
        ((mem_replaceOrAppend distinct).mpr (.inr ⟨member, Ne.symm named⟩))

/-- What a filter on the keys keeps is found where it was. -/
theorem getElem?_indexBy_filter
    {κ α : Type}
    [LinearOrder κ]
    {key : α → κ}
    (keeps : κ → Bool)
    (items : List α)
    (wanted : κ) :
    (indexBy key (items.filter fun item => keeps (key item)))[wanted]? =
      if keeps wanted then (indexBy key items)[wanted]? else none := by
  rw [getElem?_indexBy, getElem?_indexBy, ← List.filter_reverse,
    List.find?_filter]
  split_ifs with kept
  · congr 1
    funext item
    by_cases named : key item = wanted
    · simp [named, kept]
    · simp [named]
  · rw [List.find?_eq_none]
    intro item _
    by_cases named : key item = wanted
    · simp [named, kept]
    · simp [named]

section

variable
  {registry : Registry}
  {worker : WorkerId}

theorem linkMap_fenceWorker
    (registry : Registry)
    (worker : WorkerId)
    (id : LinkId) :
    (registry.fenceWorker worker).snap.linkMap[id]? =
      if registry.workers[worker]?.any fun info => id ∈ info.links then
        none
      else
        registry.snap.linkMap[id]? := by
  unfold fenceWorker EvidenceSnapshot.linkMap
  cases registry.workers[worker]? with
  | none => rfl
  | some info =>
      simp only [withdraw, forgetBoots, Option.any_some, decide_eq_true_eq]
      have filtered :=
        @getElem?_indexBy_filter _ _ _ (fun link : Link => link.id)
          (fun id => id ∉ info.links) registry.snap.links id
      rw [filtered]
      by_cases listed : id ∈ info.links <;> simp [listed]

/-- Of an endpoint of a fenced worker only the two flags change. -/
theorem endpointMap_fenceWorker
    (registry : Registry)
    (worker : WorkerId)
    (id : EndpointId) :
    (registry.fenceWorker worker).snap.endpointMap[id]? =
      registry.snap.endpointMap[id]?.map fun endpoint =>
        if registry.workers[worker]?.any fun info =>
            id ∈ info.endpoints then
          { endpoint with reachable := false, ready := false }
        else
          endpoint := by
  unfold fenceWorker EvidenceSnapshot.endpointMap
  cases registry.workers[worker]? with
  | none => simp [forgetBoots]
  | some info =>
      simp only [withdraw, forgetBoots, Option.any_some, decide_eq_true_eq]
      rw [getElem?_indexBy_map]
      · cases found :
            (indexBy (fun endpoint : Endpoint => endpoint.id)
              registry.snap.endpoints)[id]? with
        | none => rfl
        | some endpoint =>
            obtain ⟨_, rfl⟩ := mem_of_getElem?_indexBy found
            rfl
      · intro endpoint
        split <;> rfl

/-- Whether a boot is current, after another key was erased. -/
private theorem current_erase
    {κ β : Type}
    [LinearOrder κ]
    [BEq β]
    (boots : Map κ β)
    (erased wanted : κ)
    (boot : β)
    (unconstrained null : Bool) :
    (unconstrained || (!null && (boots.erase erased)[wanted]? == some boot)) =
      (!(!unconstrained && decide (erased = wanted)) &&
        (unconstrained || (!null && boots[wanted]? == some boot))) := by
  rw [Std.ExtTreeMap.getElem?_erase]
  simp only [Std.LawfulEqCmp.compare_eq_iff_eq]
  by_cases same : erased = wanted
  · cases unconstrained <;> simp [same]
  · cases unconstrained <;> simp [same]

/-- The boots of all other workers stay. -/
theorem endpointFresh_fenceWorker
    (registry : Registry)
    (worker : WorkerId)
    (endpoint : Endpoint) :
    endpointFresh endpoint (registry.fenceWorker worker).snap =
      (!RegistryEffect.publishedBy worker endpoint &&
        endpointFresh endpoint registry.snap) := by
  have workerBoots :
      (registry.fenceWorker worker).snap.workerBoots =
        registry.snap.workerBoots.erase worker := by
    unfold fenceWorker
    split <;> rfl
  have sourceBoots :
      (registry.fenceWorker worker).snap.sourceBoots =
        registry.snap.sourceBoots.erase ⟨worker.value⟩ := by
    unfold fenceWorker
    split <;> rfl
  unfold endpointFresh RegistryEffect.publishedBy
  rw [workerBoots, sourceBoots, current_erase, current_erase, Bool.not_or]
  ac_rfl

/-! ## Effects that only take evidence away -/

theorem loses_publishEndpoint
    {snapshot : EvidenceSnapshot}
    (distinct : DistinctIds snapshot)
    {endpoint : Endpoint}
    (unusable : (endpoint.reachable && endpoint.ready) = false) :
    Loses (fun _ => false) (fun id => endpoint.id = id) snapshot
      (publishEndpoint snapshot endpoint) := by
  have found :
      ∀ id,
        (publishEndpoint snapshot endpoint).endpointMap[id]? =
          if endpoint.id = id then
            some endpoint
          else
            snapshot.endpointMap[id]? :=
    getElem?_indexBy_replaceOrAppend distinct.endpoints
  exact
    { linkKept := fun _ _ => rfl
      linkLost := fun _ _ lost => by cases lost
      endpointKept := by
        intro id kept
        rw [found, if_neg (of_decide_eq_false kept)]
      freshnessKept := fun _ _ _ _ => rfl
      endpointLost := by
        intro id known transport lost lookup admissible
        rw [found, if_pos (of_decide_eq_true lost)] at lookup
        cases lookup
        rw [admissible.reachable, admissible.ready] at unusable
        cases unusable
      reservations := rfl
      policyGeneration := rfl }

theorem loses_publishLink
    {snapshot : EvidenceSnapshot}
    (distinct : DistinctIds snapshot)
    {link old : Link}
    (unusable :
      link.health.healthy = false ∨
        link.congestion.hardLimitExceeded = true)
    (known : snapshot.linkMap[link.id]? = some old)
    (sameSource : old.source = link.source)
    (sameDestination : old.destination = link.destination) :
    Loses (fun id => link.id = id) (fun _ => false) snapshot
      (publishLink snapshot link) := by
  have found :
      ∀ id,
        (publishLink snapshot link).linkMap[id]? =
          if link.id = id then some link else snapshot.linkMap[id]? :=
    getElem?_indexBy_replaceOrAppend distinct.links
  exact
    { linkKept := by
        intro id kept
        rw [found, if_neg (of_decide_eq_false kept)]
      linkLost := by
        intro id published lost lookup
        have named : link.id = id := of_decide_eq_true lost
        rw [found, if_pos named] at lookup
        cases lookup
        exact ⟨unusable, old, named ▸ known, sameSource, sameDestination⟩
      endpointKept := fun _ _ => rfl
      freshnessKept := fun _ _ _ _ => rfl
      endpointLost := fun _ _ _ lost => by cases lost
      reservations := rfl
      policyGeneration := rfl }

/-- Publishing the congestion of a link changes nothing else. -/
theorem getElem?_linkMap_congested
    {first second : EvidenceSnapshot}
    {congested : LinkId}
    {congestion : Congestion}
    (links :
      second.links =
        updateLinks first.links congested fun link =>
          { link with congestion := congestion })
    (id : LinkId) :
    second.linkMap[id]? =
      first.linkMap[id]?.map fun link : Link =>
        if link.id = congested then
          { link with congestion := congestion }
        else
          link := by
  unfold EvidenceSnapshot.linkMap
  rw [links]
  refine getElem?_indexBy_map _ _ ?_ _ _
  intro link
  split <;> rfl

theorem loses_congest
    {first second : EvidenceSnapshot}
    {congested : LinkId}
    {congestion : Congestion}
    (exceeded : congestion.hardLimitExceeded = true)
    (links :
      second.links =
        updateLinks first.links congested fun link =>
          { link with congestion := congestion })
    (endpoints : second.endpoints = first.endpoints)
    (fresh :
      ∀ endpoint, endpointFresh endpoint second = endpointFresh endpoint first)
    (reservations : second.reservations = first.reservations)
    (policyGeneration : second.policyGeneration = first.policyGeneration) :
    Loses (fun id => congested = id) (fun _ => false) first second := by
  have found := getElem?_linkMap_congested links
  exact
    { linkKept := by
        intro id kept
        rw [found]
        cases known : first.linkMap[id]? with
        | none => rfl
        | some link =>
            obtain ⟨_, rfl⟩ := mem_of_getElem?_indexBy known
            have other : link.id ≠ congested :=
              Ne.symm (of_decide_eq_false kept)
            simp [other]
      linkLost := by
        intro id link lost lookup
        rw [found, Option.map_eq_some_iff] at lookup
        obtain ⟨old, known, changed⟩ := lookup
        obtain ⟨_, rfl⟩ := mem_of_getElem?_indexBy known
        have named : congested = old.id := of_decide_eq_true lost
        rw [if_pos named.symm] at changed
        cases changed
        exact ⟨.inr exceeded, old, known, rfl, rfl⟩
      endpointKept := by
        intro id _
        unfold EvidenceSnapshot.endpointMap
        rw [endpoints]
      freshnessKept := fun _ endpoint _ _ => fresh endpoint
      endpointLost := fun _ _ _ lost => by cases lost
      reservations := reservations
      policyGeneration := policyGeneration }

/-- The end of a worker. -/
theorem loses_fenceWorker
    (registry : Registry)
    (worker : WorkerId) :
    Loses
      (fun id => registry.workers[worker]?.any fun info => id ∈ info.links)
      (fun id =>
        (registry.workers[worker]?.any fun info => id ∈ info.endpoints) ||
          registry.snap.endpointMap[id]?.any
            (RegistryEffect.publishedBy worker))
      registry.snap (registry.fenceWorker worker).snap where
  linkKept := by
    intro id kept
    rw [linkMap_fenceWorker, kept]
    rfl
  linkLost := by
    intro id link lost lookup
    rw [linkMap_fenceWorker, lost] at lookup
    cases lookup
  endpointKept := by
    intro id kept
    rw [Bool.or_eq_false_iff] at kept
    rw [endpointMap_fenceWorker, kept.1]
    simp
  freshnessKept := by
    intro id endpoint kept found
    rw [Bool.or_eq_false_iff, found, Option.any_some] at kept
    rw [endpointFresh_fenceWorker, kept.2]
    rfl
  endpointLost := by
    intro id endpoint transport lost lookup admissible
    have fresh := admissible.fresh
    rw [endpointFresh_fenceWorker] at fresh
    rw [endpointMap_fenceWorker, Option.map_eq_some_iff] at lookup
    obtain ⟨old, known, rfl⟩ := lookup
    rw [Bool.or_eq_true, known, Option.any_some] at lost
    rcases lost with listed | published
    · have reachable := admissible.reachable
      rw [if_pos listed] at reachable
      cases reachable
    · have sameBoots :
          ∀ flag : Bool,
            RegistryEffect.publishedBy worker
                (if flag = true then
                  { old with reachable := false, ready := false }
                else
                  old) =
              RegistryEffect.publishedBy worker old := by
        intro flag
        cases flag <;> rfl
      rw [sameBoots, published] at fresh
      cases fresh
  reservations := by
    unfold fenceWorker
    split <;> rfl
  policyGeneration := by
    unfold fenceWorker
    split <;> rfl

/-- An effect that takes evidence away loses what it says it loses. -/
theorem loses_apply
    (distinct : DistinctIds registry.snap)
    {effect : RegistryEffect}
    (losesOnly : effect.losesOnly registry.snap = true) :
    Loses (effect.lostLinks registry) (effect.lostEndpoints registry)
      registry.snap (registry.apply effect).snap := by
  cases effect with
  | nothing => exact Loses.refl _
  | enrolled | capacityPublished => cases losesOnly
  | endpointPublished worker endpoint =>
      exact loses_publishEndpoint distinct ((Bool.not_eq_true' _).mp losesOnly)
  | linkPublished worker link =>
      simp only [RegistryEffect.losesOnly, Bool.and_eq_true, Bool.or_eq_true,
        Bool.not_eq_true', Option.any_eq_true, decide_eq_true_eq] at losesOnly
      obtain ⟨unusable, old, known, sameSource, sameDestination⟩ := losesOnly
      exact loses_publishLink distinct unusable known sameSource
        sameDestination
  | congestionPublished congested congestion =>
      exact loses_congest losesOnly rfl rfl (fun _ => rfl) rfl rfl
  | disconnected socket worker => exact loses_fenceWorker registry worker

end

end Registry

namespace Coordinator

variable
  {config : Config}
  {store : Option (List UInt8)}
  {trace : List CoordinatorStep}
  {request : CommunicationRequest}
  {plan : CommunicationPlan}

/-! ## Runs that only lose evidence -/

/-- The step takes evidence away, if it changes the registry at all. -/
def losesEvidence (step : CoordinatorStep) : Bool :=
  (step.before.registry.effect step.event).losesOnly
    step.before.registry.snap

/-- One of the steps makes the link unusable. -/
def lostLinks (trace : List CoordinatorStep) (id : LinkId) : Bool :=
  trace.any fun step =>
    (step.before.registry.effect step.event).lostLinks step.before.registry id

/-- One of the steps makes the endpoint unusable. -/
def lostEndpoints (trace : List CoordinatorStep) (id : EndpointId) : Bool :=
  trace.any fun step =>
    (step.before.registry.effect step.event).lostEndpoints
      step.before.registry id

/-- The path rests on nothing that the steps made unusable. -/
def survivesLosses (trace : List CoordinatorStep) (path : Path) : Bool :=
  path.candidate.survives (lostLinks trace) (lostEndpoints trace)

/-- What a run loses is what its steps lose. -/
theorem loses_of_run
    {before after : Coordinator}
    (run : Run (step? config) before trace after)
    (distinct : DistinctIds before.registry.snap)
    (loses : ∀ step ∈ trace, losesEvidence step = true) :
    DistinctIds after.registry.snap ∧
      Loses (lostLinks trace) (lostEndpoints trace) before.registry.snap
        after.registry.snap := by
  refine run.invariant_trace
    (fun trace state =>
      DistinctIds state.registry.snap ∧
        Loses (lostLinks trace) (lostEndpoints trace) before.registry.snap
          state.registry.snap) ⟨distinct, Loses.refl _⟩ ?_
  rintro earlier previous event next outputs _ member ⟨distinctHere, soFar⟩
    stepped
  have changed : next.registry =
      previous.registry.apply (previous.registry.effect event) :=
    (registry_of_step? stepped).trans (previous.registry.next_eq_apply event)
  rw [changed]
  refine ⟨Registry.distinctIds_apply distinctHere _, ?_⟩
  have last := Registry.loses_apply distinctHere (loses _ member)
  have added := soFar.trans last
  unfold lostLinks lostEndpoints
  simp only [List.any_append, List.any_cons, List.any_nil, Bool.or_false]
  exact added

/-- A request that can be planned is answered with its plan. -/
theorem submits_of_planned
    {step : CoordinatorStep}
    {socket : Socket}
    {message : Message}
    {outcome : PlanOutcome}
    {remaining : Counters}
    (stepped :
      step? config step.before step.event = some (step.after, step.outputs))
    (received : step.event = .receive socket message)
    (kind : message.type = .submitRequest)
    (named : message.request.id.isNull = false)
    (open_ : message.request.id ∉ step.before.ledger.cancelled)
    (ran :
      (planCommunication message.request step.before.registry.snap
          config.weights config.bounds).run step.before.ledger.counters =
        .ok (outcome, remaining))
    (success : outcome.success = true)
    (isPlan : outcome.plan = some plan) :
    submits step message.request plan := by
  refine ⟨socket, message, received, kind, rfl, ?_⟩
  have taken := taken_of_step? stepped
  rw [received] at taken
  generalize step.after = after at taken
  generalize step.outputs = outputs at taken ⊢
  cases taken with
  | receive _ _ listening =>
      simp only [handleMessage, kind, outputs_submit,
        Ledger.handleSubmitRequest, named, Bool.false_eq_true, if_false,
        if_neg open_, ran, success, isPlan]
      simp

/--
A request is submitted again, and all that has happened to the evidence since
its first submission is that some of it was lost.  If one of the candidate paths
of the first plan survives, there is a second plan; and the second plan begins
with the paths of the first that survive, at their costs and in their order, and
rests on nothing that was lost.
-/
theorem replanning_falls_back
    {past between : List CoordinatorStep}
    {submission resubmission : CoordinatorStep}
    {final : Coordinator}
    (run :
      ProcessRun config store
        (past ++ submission :: (between ++ [resubmission])) final)
    (submitted : submits submission request plan)
    (shape : request.shape = .pointToPoint ∨ request.shape = .staged)
    (unicast : request.allowMulticast = false)
    (fits :
      Set.encard {candidate |
          RequestPath request submission.before.registry.snap config.bounds
            candidate} ≤
        (config.bounds.maxCandidates.toNat : ℕ∞))
    (loses : ∀ step ∈ between, losesEvidence step = true)
    {socket : Socket}
    {message : Message}
    (received : resubmission.event = .receive socket message)
    (kind : message.type = .submitRequest)
    (same : message.request = request)
    (open_ : request.id ∉ resubmission.before.ledger.cancelled) :
    ((∃ path ∈ plan.candidatePaths, survivesLosses between path = true) →
      ∃ replan, submits resubmission request replan) ∧
    ∀ replan,
      submits resubmission request replan →
      (plan.candidatePaths.filter (survivesLosses between)).map Path.offer <+:
        replan.candidatePaths.map Path.offer ∧
      ∀ path ∈ replan.candidatePaths,
        survivesLosses between path = true := by
  subst same
  obtain ⟨pastRun, submissionStepped, laterRun⟩ := run.cut
  obtain ⟨betweenRun, resubmissionStepped, _⟩ := laterRun.cut
  have distinct := distinctIds_of_run pastRun
  have unchanged := registry_of_submits submissionStepped submitted
  obtain ⟨distinctAfter, lost⟩ :=
    loses_of_run betweenRun (unchanged ▸ distinct) loses
  rw [unchanged] at lost
  obtain ⟨⟨outcome, remaining, ran, success, isPlan⟩, _⟩ :=
    produced_of_submits submission submissionStepped submitted
  obtain ⟨replanned, left, reran, succeeds, replans⟩ :=
    lost.offers_survive distinct.links distinctAfter.links shape unicast fits
      ran success isPlan resubmission.before.ledger.counters
  refine ⟨?_, ?_⟩
  · intro survivor
    have again := succeeds survivor
    obtain ⟨replan, isReplan, _⟩ := replans again
    exact ⟨replan, submits_of_planned resubmissionStepped received kind
      (id_of_validate (validate_of_run ran)) open_ reran again isReplan⟩
  · intro replan resubmitted
    obtain ⟨⟨other, _, otherRan, otherSuccess, isReplan⟩, _⟩ :=
      produced_of_submits resubmission resubmissionStepped resubmitted
    rw [reran] at otherRan
    cases otherRan
    obtain ⟨found, isFound, survive⟩ := replans otherSuccess
    rw [isReplan] at isFound
    cases isFound
    exact survive

/-- A second worker joins with a wider link between the same endpoints. -/
def widening : List Event :=
  [.accept ⟨5⟩] ++
    receiveAll ⟨5⟩
      [ CoordinatorClient.registerWorker ⟨2⟩ ⟨1⟩ [],
        CoordinatorClient.publishLink ⟨2⟩ ⟨1⟩
          (mkLink ⟨9⟩ ⟨1⟩ ⟨1⟩ ⟨2⟩ .tcp 2000) ]

/-- When its connection ends, the transfer falls back on the narrow link. -/
theorem wide_link_falls_back :
    ∃ past between submission resubmission final plan replan path,
      ProcessRun defaultConfig none
        (past ++ submission :: (between ++ [resubmission])) final ∧
      submits submission (directRequest ⟨5⟩) plan ∧
      plan.candidatePaths.length = 2 ∧
      plan.candidatePaths.filter (survivesLosses between) = [path] ∧
      submits resubmission (directRequest ⟨5⟩) replan ∧
      [path.offer] <+: replan.candidatePaths.map Path.offer := by
  have checked :
      (replay? (step? defaultConfig) (start none)
        (deployment ⟨4⟩ ⟨1⟩ ++ widening)).any
        (fun reached =>
          (enumerateCandidatePaths reached.2.registry.snap ⟨1⟩ ⟨2⟩
            defaultConfig.bounds).length <
              defaultConfig.bounds.maxCandidates.toNat &&
          (step? defaultConfig reached.2
            (.receive ⟨4⟩
              (CoordinatorClient.submitRequest (directRequest ⟨5⟩)))).any
            fun submitted =>
              (replay? (step? defaultConfig) submitted.1
                [.disconnect ⟨5⟩]).any fun lost =>
                (step? defaultConfig lost.2
                  (.receive ⟨4⟩
                    (CoordinatorClient.submitRequest
                      (directRequest ⟨5⟩)))).isSome &&
                lost.1.all losesEvidence &&
                (⟨5⟩ : CommunicationRequestId) ∉ lost.2.ledger.cancelled &&
                reached.2.planState? ⟨1⟩ = none &&
                submitted.1.ledger.plans[(⟨1⟩ : CommunicationPlanId)]?.any
                  fun record =>
                    record.plan.candidatePaths.length = 2 &&
                    (record.plan.candidatePaths.filter
                      (survivesLosses lost.1)).length = 1) = true := by
    decide +kernel
  obtain ⟨past, planning, pastRun, holds⟩ := exists_run_of_replay? checked
  rw [Bool.and_eq_true, decide_eq_true_eq] at holds
  obtain ⟨short, holds⟩ := holds
  obtain ⟨⟨submitted, replies⟩, stepped, holds⟩ :=
    (Option.any_eq_true _ _).mp holds
  obtain ⟨between, lost, betweenRun, holds⟩ := exists_run_of_replay? holds
  simp only [Bool.and_eq_true, decide_eq_true_eq, List.all_eq_true] at holds
  obtain ⟨⟨⟨⟨again, loses⟩, open_⟩, absent⟩, holds⟩ := holds
  obtain ⟨⟨resubmitted, answers⟩, restepped⟩ :=
    Option.isSome_iff_exists.mp again
  obtain ⟨record, entered, holds⟩ := (Option.any_eq_true _ _).mp holds
  simp only [Bool.and_eq_true, decide_eq_true_eq] at holds
  obtain ⟨two, one⟩ := holds
  obtain ⟨path, only⟩ := List.length_eq_one_iff.mp one
  have absentBefore : planning.planState? ⟨1⟩ = none := absent
  have planned := submits_of_entered stepped rfl entered (by
    rw [absentBefore, planState?, entered]
    simp)
  have run :=
    (pastRun.snoc stepped).append (betweenRun.snoc restepped)
  rw [List.append_assoc, List.singleton_append] at run
  have paths :
      RequestPath (directRequest ⟨5⟩) planning.registry.snap
          defaultConfig.bounds =
        LinkPath planning.registry.snap ⟨1⟩ ⟨2⟩ defaultConfig.bounds :=
    requestPath_eq_linkPath rfl _ _
  obtain ⟨answered, falls⟩ :=
    replanning_falls_back run planned (.inl rfl) rfl
      (paths ▸ encard_linkPaths_le_of_length_lt short) loses rfl rfl rfl open_
  have member : path ∈ record.plan.candidatePaths.filter
      (survivesLosses between) := by
    simp [only]
  obtain ⟨replan, isReplan⟩ :=
    answered ⟨path, (List.mem_filter.mp member).1,
      (List.mem_filter.mp member).2⟩
  obtain ⟨begins, _⟩ := falls replan isReplan
  rw [only] at begins
  exact ⟨past, between, _, _, resubmitted, record.plan, replan, path, run,
    planned, two, only, isReplan, begins⟩

end Coordinator

end CommunicationPlanner
