import CommunicationPlanner.EvidenceWithdrawal

namespace CommunicationPlanner

open OrderedCollections TransitionRun

/-!
# What the snapshot shows

The registry keeps the snapshot up to date record by record.  Read off the trace
instead, the snapshot shows of every identity what was published under it last,
a link with the load that was reported since, unless a worker that lists the
identity was fenced since: then the endpoint is neither reachable nor ready, and
the link is gone.  A worker lists what it has published since its registration.
-/

/-- The endpoint as it is shown once a worker that lists it is fenced. -/
def Endpoint.withdrawn (endpoint : Endpoint) : Endpoint :=
  { endpoint with reachable := false, ready := false }


/-- The link under the load that is known of it since. -/
def Link.underLoad
    (link : Link)
    (congestion : Option Congestion)
    (capacity : Option Capacity) : Link :=
  { link with
    congestion := congestion.getD link.congestion
    capacityEvidence := capacity.getD link.capacityEvidence }

@[simp] theorem Link.underLoad_none (link : Link) :
    link.underLoad none none = link :=
  rfl


/-- What is known later goes before what was known. -/
theorem Link.underLoad_underLoad
    (link : Link)
    (earlier later : Option Congestion)
    (before after : Option Capacity) :
    (link.underLoad earlier before).underLoad later after =
      link.underLoad (later.or earlier) (after.or before) := by
  cases later <;> cases after <;> rfl

namespace Coordinator

/-! ## Reading the trace -/

/-- The endpoint that the step publishes under the identity. -/
def publishedEndpoint?
    (id : EndpointId)
    (step : CoordinatorStep) : Option Endpoint :=
  match step.before.registry.effect step.event with
  | .endpointPublished _ endpoint =>
      if endpoint.id = id then some endpoint else none
  | _ => none

/-- The link that the step publishes under the identity. -/
def publishedLink? (id : LinkId) (step : CoordinatorStep) : Option Link :=
  match step.before.registry.effect step.event with
  | .linkPublished _ link => if link.id = id then some link else none
  | _ => none

/-- The congestion that the step shows of the link. -/
def congestionOf? (id : LinkId) (step : CoordinatorStep) : Option Congestion :=
  match step.before.registry.effect step.event with
  | .linkPublished _ link =>
      if link.id = id then some link.congestion else none
  | .congestionPublished link congestion =>
      if link = id then some congestion else none
  | _ => none

/-- The capacity evidence that the step shows of the link. -/
def capacityOf? (id : LinkId) (step : CoordinatorStep) : Option Capacity :=
  match step.before.registry.effect step.event with
  | .linkPublished _ link =>
      if link.id = id then some link.capacityEvidence else none
  | .capacityPublished link capacity =>
      if link = id then some capacity else none
  | _ => none

/-- The step fences a worker that lists the endpoint. -/
def withdrawsEndpoint (id : EndpointId) (step : CoordinatorStep) : Bool :=
  match step.before.registry.effect step.event with
  | .disconnected _ worker =>
      step.before.registry.workers[worker]?.any fun info =>
        id ∈ info.endpoints
  | _ => false

/-- The step fences a worker that lists the link. -/
def withdrawsLink (id : LinkId) (step : CoordinatorStep) : Bool :=
  match step.before.registry.effect step.event with
  | .disconnected _ worker =>
      step.before.registry.workers[worker]?.any fun info => id ∈ info.links
  | _ => false

/-- The worker publishes the endpoint. -/
def listsEndpointAs
    (worker : WorkerId)
    (id : EndpointId)
    (step : CoordinatorStep) : Bool :=
  match step.before.registry.effect step.event with
  | .endpointPublished publisher endpoint =>
      publisher = worker && endpoint.id = id
  | _ => false

/-- The worker publishes the link. -/
def listsLinkAs
    (worker : WorkerId)
    (id : LinkId)
    (step : CoordinatorStep) : Bool :=
  match step.before.registry.effect step.event with
  | .linkPublished publisher link => publisher = worker && link.id = id
  | _ => false

/-- The worker registers, with nothing listed yet. -/
def enrolls (worker : WorkerId) (step : CoordinatorStep) : Bool :=
  match step.before.registry.effect step.event with
  | .enrolled _ enrolled _ _ => enrolled = worker
  | _ => false

/-- The endpoint as it was last published, and as it was withdrawn since. -/
def endpointShown
    (id : EndpointId)
    (trace : List CoordinatorStep) : Option Endpoint :=
  (latest? (publishedEndpoint? id) trace).map fun published =>
    if stands (withdrawsEndpoint id)
        (fun step => (publishedEndpoint? id step).isSome) trace then
      published.withdrawn
    else
      published

/-- The link as it was last published, under the load that was last shown. -/
def linkShown
    (id : LinkId)
    (trace : List CoordinatorStep) : Option Link :=
  if stands (withdrawsLink id)
      (fun step => (publishedLink? id step).isSome) trace then
    none
  else
    (latest? (publishedLink? id) trace).map fun published =>
      published.underLoad (latest? (congestionOf? id) trace)
        (latest? (capacityOf? id) trace)

section

variable
  {trace : List CoordinatorStep}
  {step : CoordinatorStep}

/-- What is published under an identity bears it. -/
theorem id_of_publishedEndpoint
    {id : EndpointId}
    {endpoint : Endpoint}
    (published : publishedEndpoint? id step = some endpoint) :
    endpoint.id = id := by
  unfold publishedEndpoint? at published
  split at published
  · split_ifs at published with same
    cases published
    exact same
  · cases published

/-- What is published under an identity bears it. -/
theorem id_of_publishedLink
    {id : LinkId}
    {link : Link}
    (published : publishedLink? id step = some link) :
    link.id = id := by
  unfold publishedLink? at published
  split at published
  · split_ifs at published with same
    cases published
    exact same
  · cases published

/-- What is shown under an identity bears it. -/
theorem id_of_endpointShown
    {id : EndpointId}
    {endpoint : Endpoint}
    (shown : endpointShown id trace = some endpoint) :
    endpoint.id = id := by
  obtain ⟨published, isLatest, rfl⟩ := Option.map_eq_some_iff.mp shown
  obtain ⟨_, _, observed⟩ := exists_of_latest isLatest
  have sameId := id_of_publishedEndpoint observed
  split_ifs <;> exact sameId

/-- What is shown under an identity bears it. -/
theorem id_of_linkShown
    {id : LinkId}
    {link : Link}
    (shown : linkShown id trace = some link) :
    link.id = id := by
  unfold linkShown at shown
  split_ifs at shown
  obtain ⟨published, isLatest, rfl⟩ := Option.map_eq_some_iff.mp shown
  obtain ⟨_, _, observed⟩ := exists_of_latest isLatest
  have sameId := id_of_publishedLink observed
  exact sameId

/-! ## One more step -/

/-- A publication withdraws nothing. -/
theorem withdrawsEndpoint_of_published
    {id : EndpointId}
    {endpoint : Endpoint}
    (published : publishedEndpoint? id step = some endpoint) :
    withdrawsEndpoint id step = false := by
  unfold publishedEndpoint? at published
  unfold withdrawsEndpoint
  split at published
  · rename_i isEffect
    rw [isEffect]
  · cases published

/-- A publication shows the link under its own load. -/
theorem load_of_published
    {id : LinkId}
    {link : Link}
    (published : publishedLink? id step = some link) :
    withdrawsLink id step = false ∧
      congestionOf? id step = some link.congestion ∧
      capacityOf? id step = some link.capacityEvidence := by
  unfold publishedLink? at published
  unfold withdrawsLink congestionOf? capacityOf?
  split at published
  · rename_i isEffect
    split_ifs at published with same
    cases published
    simp [isEffect, same]
  · cases published

/-- A step publishes the endpoint, withdraws it, or leaves it. -/
theorem endpointShown_snoc
    (id : EndpointId)
    (trace : List CoordinatorStep)
    (step : CoordinatorStep) :
    endpointShown id (trace ++ [step]) =
      (publishedEndpoint? id step).or
        ((endpointShown id trace).map fun shown =>
          if withdrawsEndpoint id step then shown.withdrawn else shown) := by
  unfold endpointShown
  rw [latest?_snoc, stands_snoc]
  cases published : publishedEndpoint? id step with
  | some endpoint =>
      simp [withdrawsEndpoint_of_published published]
  | none =>
      cases withdrawsEndpoint id step <;>
        cases latest? (publishedEndpoint? id) trace <;>
        simp
      split_ifs <;> rfl

/-- A step publishes the link, withdraws it, or changes its load. -/
theorem linkShown_snoc
    (id : LinkId)
    (trace : List CoordinatorStep)
    (step : CoordinatorStep) :
    linkShown id (trace ++ [step]) =
      (publishedLink? id step).or
        (if withdrawsLink id step then
          none
        else
          (linkShown id trace).map fun shown =>
            shown.underLoad (congestionOf? id step)
              (capacityOf? id step)) := by
  unfold linkShown
  rw [latest?_snoc, latest?_snoc, latest?_snoc, stands_snoc]
  cases published : publishedLink? id step with
  | some link =>
      obtain ⟨withdraws, congestion, capacity⟩ := load_of_published published
      simp [withdraws, congestion, capacity, Link.underLoad]
  | none =>
      cases withdrawsLink id step with
      | true => simp
      | false =>
          simp only [Option.none_or, Option.isSome_none, Bool.not_false,
            Bool.false_or, Bool.and_true, Bool.false_eq_true, if_false]
          split_ifs
          · rfl
          · rw [Option.map_map]
            refine Option.map_congr ?_
            intro shown _
            exact (shown.underLoad_underLoad _ _ _ _).symm

/-! ## The registry follows the trace -/

/-- Whoever publishes is live. -/
theorem live_of_endpointPublished
    {registry : Registry}
    {event : Event}
    {worker : WorkerId}
    {endpoint : Endpoint}
    (isEffect :
      registry.effect event = .endpointPublished worker endpoint) :
    registry.live worker := by
  have guards := Registry.effectOf registry event
  rw [isEffect] at guards
  cases guards with
  | endpointPublished _ _ _ authority =>
      exact Registry.live_of_authorized authority

/-- Only a live worker publishes. -/
theorem live_of_linkPublished
    {registry : Registry}
    {event : Event}
    {worker : WorkerId}
    {link : Link}
    (isEffect :
      registry.effect event = .linkPublished worker link) :
    registry.live worker := by
  have guards := Registry.effectOf registry event
  rw [isEffect] at guards
  cases guards with
  | linkPublished _ _ _ authority =>
      exact Registry.live_of_authorized authority

/-- The registry after a step. -/
def appliedRegistry (step : CoordinatorStep) : Registry :=
  step.before.registry.apply (step.before.registry.effect step.event)

/-- A step changes the endpoints as it changes what is shown. -/
theorem mem_endpoints_snoc
    (step : CoordinatorStep)
    (distinct : DistinctIds step.before.registry.snap)
    (shown :
      ∀ endpoint,
        endpoint ∈ step.before.registry.snap.endpoints ↔
          endpointShown endpoint.id trace = some endpoint)
    (endpoint : Endpoint) :
    endpoint ∈ (appliedRegistry step).snap.endpoints ↔
      endpointShown endpoint.id (trace ++ [step]) = some endpoint := by
  rw [endpointShown_snoc]
  unfold appliedRegistry
  cases isEffect : step.before.registry.effect step.event with
  | endpointPublished worker published =>
      have kept : withdrawsEndpoint endpoint.id step = false := by
        simp [withdrawsEndpoint, isEffect]
      simp only [Registry.apply, Registry.publishEndpoint,
        mem_replaceOrAppend distinct.endpoints, shown,
        publishedEndpoint?, isEffect, kept]
      by_cases same : published.id = endpoint.id
      · simp only [same, ne_eq, not_true_eq_false, and_false, or_false,
          if_true, Option.some_or, Option.some.injEq, eq_comm]
      · have other : endpoint ≠ published := fun isPublished =>
          same (congrArg Endpoint.id isPublished.symm)
        simp [same, Ne.symm same, other]
  | disconnected socket worker =>
      have none : publishedEndpoint? endpoint.id step = none := by
        simp [publishedEndpoint?, isEffect]
      have withdraws :
          ∀ id,
            withdrawsEndpoint id step = true ↔
              step.before.registry.listsEndpoint worker id := by
        intro id
        simp [withdrawsEndpoint, isEffect, Registry.listsEndpoint,
          Option.any_eq_true]
      rw [none, Option.none_or, Option.map_eq_some_iff]
      refine Registry.mem_endpoints_fenceWorker.trans ?_
      simp only [shown, ← withdraws]
      constructor
      · rintro (⟨isShown, unlisted⟩ | ⟨known, isShown, listed, rfl⟩)
        · exact ⟨endpoint, isShown, if_neg unlisted⟩
        · exact ⟨known, isShown, if_pos listed⟩
      · rintro ⟨known, isShown, isEndpoint⟩
        have sameId := id_of_endpointShown isShown
        split_ifs at isEndpoint with listed
        · refine .inr ⟨known, ?_, ?_, isEndpoint.symm⟩
          · rw [sameId]
            exact isShown
          · rw [sameId]
            exact listed
        · rw [← isEndpoint] at isShown listed ⊢
          exact .inl ⟨isShown, listed⟩
  | nothing | enrolled | linkPublished | capacityPublished
  | congestionPublished =>
      have same :
          publishedEndpoint? endpoint.id step = none ∧
            withdrawsEndpoint endpoint.id step = false := by
        simp [publishedEndpoint?, withdrawsEndpoint, isEffect]
      simp only [same, Option.none_or, Bool.false_eq_true, if_false,
        Option.map_id']
      exact shown endpoint

/-- Links that are all put under the load that the step shows of them. -/
theorem mem_map_underLoad
    {links : List Link}
    (shown :
      ∀ link, link ∈ links ↔ linkShown link.id trace = some link)
    (link : Link) :
    link ∈
        links.map (fun known =>
          known.underLoad (congestionOf? known.id step)
            (capacityOf? known.id step)) ↔
      (linkShown link.id trace).map
          (fun known =>
            known.underLoad (congestionOf? link.id step)
              (capacityOf? link.id step)) =
        some link := by
  rw [List.mem_map, Option.map_eq_some_iff]
  constructor
  · rintro ⟨known, member, rfl⟩
    exact ⟨known, (shown known).mp member, rfl⟩
  · rintro ⟨known, isShown, isLink⟩
    have sameId := id_of_linkShown isShown
    refine ⟨known, (shown known).mpr ?_, ?_⟩
    · rw [sameId]
      exact isShown
    · rw [sameId]
      exact isLink

/-- A step changes the links as it changes what is shown. -/
theorem mem_links_snoc
    (step : CoordinatorStep)
    (distinct : DistinctIds step.before.registry.snap)
    (shown :
      ∀ link,
        link ∈ step.before.registry.snap.links ↔
          linkShown link.id trace = some link)
    (link : Link) :
    link ∈ (appliedRegistry step).snap.links ↔
      linkShown link.id (trace ++ [step]) = some link := by
  rw [linkShown_snoc]
  unfold appliedRegistry
  cases isEffect : step.before.registry.effect step.event with
  | linkPublished worker published =>
      have kept : withdrawsLink link.id step = false := by
        simp [withdrawsLink, isEffect]
      simp only [Registry.apply, Registry.publishLink,
        mem_replaceOrAppend distinct.links, shown,
        publishedLink?, isEffect, kept]
      by_cases same : published.id = link.id
      · simp only [same, ne_eq, not_true_eq_false, and_false, or_false,
          if_true, Option.some_or, Option.some.injEq, eq_comm]
      · have other : link ≠ published := fun isPublished =>
          same (congrArg Link.id isPublished.symm)
        simp [same, Ne.symm same, other, congestionOf?, capacityOf?, isEffect]
  | disconnected socket worker =>
      have unpublished :
          publishedLink? link.id step = none ∧
            congestionOf? link.id step = none ∧
            capacityOf? link.id step = none := by
        simp [publishedLink?, congestionOf?, capacityOf?, isEffect]
      have withdraws :
          withdrawsLink link.id step = true ↔
            step.before.registry.listsLink worker link.id := by
        simp [withdrawsLink, isEffect, Registry.listsLink,
          Option.any_eq_true]
      refine Registry.mem_links_fenceWorker.trans ?_
      simp only [unpublished, shown, ← withdraws, Option.none_or]
      split_ifs with listed
      · simp [listed]
      · simp [listed]
  | capacityPublished updated capacity =>
      have same :
          publishedLink? link.id step = none ∧
            withdrawsLink link.id step = false := by
        simp [publishedLink?, withdrawsLink, isEffect]
      have loads :
          Registry.updateLinks step.before.registry.snap.links updated
              (fun known => { known with capacityEvidence := capacity }) =
            step.before.registry.snap.links.map fun known =>
              known.underLoad (congestionOf? known.id step)
                (capacityOf? known.id step) := by
        refine List.map_congr_left fun known _ => ?_
        simp only [congestionOf?, capacityOf?, isEffect, eq_comm]
        split_ifs <;> rfl
      simp only [same, Option.none_or, Bool.false_eq_true, if_false,
        Registry.apply, loads]
      exact mem_map_underLoad shown link
  | congestionPublished updated congestion =>
      have same :
          publishedLink? link.id step = none ∧
            withdrawsLink link.id step = false := by
        simp [publishedLink?, withdrawsLink, isEffect]
      have loads :
          Registry.updateLinks step.before.registry.snap.links updated
              (fun known => { known with congestion := congestion }) =
            step.before.registry.snap.links.map fun known =>
              known.underLoad (congestionOf? known.id step)
                (capacityOf? known.id step) := by
        refine List.map_congr_left fun known _ => ?_
        simp only [congestionOf?, capacityOf?, isEffect, eq_comm]
        split_ifs <;> rfl
      simp only [same, Option.none_or, Bool.false_eq_true, if_false,
        Registry.apply, loads]
      exact mem_map_underLoad shown link
  | nothing | enrolled | endpointPublished =>
      have same :
          publishedLink? link.id step = none ∧
            withdrawsLink link.id step = false ∧
            congestionOf? link.id step = none ∧
            capacityOf? link.id step = none := by
        simp [publishedLink?, withdrawsLink, congestionOf?, capacityOf?,
          isEffect]
      simp only [same, Option.none_or, Bool.false_eq_true, if_false,
        Link.underLoad_none, Option.map_id']
      exact shown link

/-- What a worker lists is begun anew where it registers, and added to since. -/
theorem lists_snoc
    (step : CoordinatorStep)
    {worker : WorkerId}
    (endpoints :
      ∀ id,
        step.before.registry.listsEndpoint worker id ↔
          StandsIn (listsEndpointAs worker id) (enrolls worker) trace)
    (links :
      ∀ id,
        step.before.registry.listsLink worker id ↔
          StandsIn (listsLinkAs worker id) (enrolls worker) trace) :
    (∀ id,
      (appliedRegistry step).listsEndpoint worker id ↔
        StandsIn (listsEndpointAs worker id) (enrolls worker)
          (trace ++ [step])) ∧
    ∀ id,
      (appliedRegistry step).listsLink worker id ↔
        StandsIn (listsLinkAs worker id) (enrolls worker)
          (trace ++ [step]) := by
  simp only [standsIn_snoc, ← endpoints, ← links, appliedRegistry,
    listsEndpointAs, listsLinkAs, enrolls]
  cases isEffect : step.before.registry.effect step.event with
  | enrolled socket enrolled boot name =>
      simp [Registry.apply, Registry.listsEndpoint_enroll,
        Registry.listsLink_enroll, and_comm, eq_comm]
  | endpointPublished publisher endpoint =>
      have live := live_of_endpointPublished isEffect
      refine ⟨fun id => ?_, fun id => ?_⟩
      · refine (Registry.listsEndpoint_apply_endpointPublished live).trans ?_
        simp only [Bool.and_eq_true, decide_eq_true_eq, and_true,
          eq_comm (a := worker), eq_comm (a := id)]
        exact or_comm
      · refine Registry.listsLink_apply_endpointPublished.trans ?_
        simp
  | linkPublished publisher link =>
      have live := live_of_linkPublished isEffect
      refine ⟨fun id => ?_, fun id => ?_⟩
      · refine Registry.listsEndpoint_apply_linkPublished.trans ?_
        simp
      · refine (Registry.listsLink_apply_linkPublished live).trans ?_
        simp only [Bool.and_eq_true, decide_eq_true_eq, and_true,
          eq_comm (a := worker), eq_comm (a := id)]
        exact or_comm
  | disconnected socket ended =>
      refine ⟨fun id => ?_, fun id => ?_⟩
      · refine Registry.listsEndpoint_fenceWorker.trans ?_
        simp
      · refine Registry.listsLink_fenceWorker.trans ?_
        simp
  | nothing | capacityPublished | congestionPublished =>
      simp only [Bool.false_eq_true, and_true, false_or]
      exact ⟨fun _ => Iff.rfl, fun _ => Iff.rfl⟩

end

/-! ## Every run -/

/-- The registry is what the trace shows. -/
structure ShownBy
    (trace : List CoordinatorStep)
    (registry : Registry) : Prop where
  endpoints :
    ∀ endpoint,
      endpoint ∈ registry.snap.endpoints ↔
        endpointShown endpoint.id trace = some endpoint
  links :
    ∀ link,
      link ∈ registry.snap.links ↔ linkShown link.id trace = some link
  listedEndpoints :
    ∀ worker id,
      registry.listsEndpoint worker id ↔
        StandsIn (listsEndpointAs worker id) (enrolls worker) trace
  listedLinks :
    ∀ worker id,
      registry.listsLink worker id ↔
        StandsIn (listsLinkAs worker id) (enrolls worker) trace

variable
  {config : Config}
  {store : Option (List UInt8)}
  {trace : List CoordinatorStep}
  {final : Coordinator}

/-- In every run the registry holds what the history shows. -/
theorem shownBy_of_run
    (run : ProcessRun config store trace final) :
    ShownBy trace final.registry := by
  induction run with
  | nil =>
      have noLists : (start store).registry.workers = ∅ := rfl
      refine ⟨?_, ?_, ?_, ?_⟩
      · intro endpoint
        simp [start, initialSnapshot, endpointShown, latest?]
      · intro link
        simp [start, initialSnapshot, linkShown, latest?]
      · intro worker id
        simp [Registry.listsEndpoint, noLists, not_standsIn_nil]
      · intro worker id
        simp [Registry.listsLink, noLists, not_standsIn_nil]
  | @snoc before after past event outputs earlier last
      inductionHypothesis =>
      have distinct := distinctIds_of_run earlier
      have lists := fun worker =>
        lists_snoc ⟨before, event, outputs, after⟩
          (inductionHypothesis.listedEndpoints worker)
          (inductionHypothesis.listedLinks worker)
      rw [registry_of_step? last, Registry.next_eq_apply]
      exact
        { endpoints := fun endpoint =>
            mem_endpoints_snoc ⟨before, event, outputs, after⟩
              distinct inductionHypothesis.endpoints endpoint
          links := fun link =>
            mem_links_snoc ⟨before, event, outputs, after⟩
              distinct inductionHypothesis.links link
          listedEndpoints := fun worker => (lists worker).1
          listedLinks := fun worker => (lists worker).2 }

/-- The maps that the planner and revalidation look records up in. -/
theorem maps_of_run
    (run : ProcessRun config store trace final) :
    (∀ id,
      final.registry.snap.endpointMap[id]? = endpointShown id trace) ∧
    ∀ id, final.registry.snap.linkMap[id]? = linkShown id trace := by
  have shown := shownBy_of_run run
  have distinct := distinctIds_of_run run
  constructor
  · intro id
    refine Option.ext fun endpoint => ?_
    constructor
    · intro found
      obtain ⟨member, rfl⟩ := mem_of_getElem?_indexBy found
      exact (shown.endpoints endpoint).mp member
    · intro isShown
      have sameId := id_of_endpointShown isShown
      rw [← sameId] at isShown ⊢
      exact getElem?_indexBy_of_mem distinct.endpoints
        ((shown.endpoints endpoint).mpr isShown)
  · intro id
    refine Option.ext fun link => ?_
    constructor
    · intro found
      obtain ⟨member, rfl⟩ := mem_of_getElem?_indexBy found
      exact (shown.links link).mp member
    · intro isShown
      have sameId := id_of_linkShown isShown
      rw [← sameId] at isShown ⊢
      exact getElem?_indexBy_of_mem distinct.links
        ((shown.links link).mpr isShown)

/--
In every run the snapshot shows of each identity what the trace says: the record
that was last published, a link under the load last shown of it, and withdrawn
if a worker that lists it was fenced since.  And a worker lists exactly what it
has published since it last registered.
-/
theorem snapshot_shows_what_was_published
    (run : ProcessRun config store trace final) :
    (∀ id,
      final.registry.snap.endpointMap[id]? = endpointShown id trace) ∧
    (∀ id, final.registry.snap.linkMap[id]? = linkShown id trace) ∧
    ∀ worker,
      (∀ id,
        final.registry.listsEndpoint worker id ↔
          StandsIn (listsEndpointAs worker id) (enrolls worker) trace) ∧
      ∀ id,
        final.registry.listsLink worker id ↔
          StandsIn (listsLinkAs worker id) (enrolls worker) trace := by
  have shown := shownBy_of_run run
  obtain ⟨endpoints, links⟩ := maps_of_run run
  refine ⟨endpoints, links, ?_⟩
  intro worker
  exact ⟨shown.listedEndpoints worker, shown.listedLinks worker⟩

/--
A second worker takes over an endpoint, adds a link and reports it congested.
When the first worker ends, its link is gone, the other link is shown congested,
and the endpoint is shown as the second worker's, but withdrawn: the first
worker still lists it.
-/
theorem taken_over_endpoint_is_withdrawn :
    ∃ trace final,
      ProcessRun defaultConfig none trace final ∧
      final.registry.snap.linkMap[(⟨7⟩ : LinkId)]? = none ∧
      (final.registry.snap.linkMap[(⟨8⟩ : LinkId)]?.any fun link =>
        link.congestion.hardLimitExceeded) = true ∧
      (final.registry.snap.endpointMap[(⟨2⟩ : EndpointId)]?.any fun endpoint =>
        endpoint.worker = ⟨2⟩ && !endpoint.reachable && !endpoint.ready) =
          true ∧
      final.registry.listsEndpoint ⟨1⟩ ⟨2⟩ := by
  have checked :
      (replay? (step? defaultConfig) (start none)
        (deployment ⟨4⟩ ⟨1⟩ ++
          .accept ⟨5⟩ ::
          receiveAll ⟨5⟩
            [ CoordinatorClient.registerWorker ⟨2⟩ ⟨1⟩ [],
              CoordinatorClient.publishEndpoint ⟨2⟩ ⟨1⟩
                (mkEndpoint ⟨2⟩ ⟨1⟩ .cpuMemory .tcp),
              CoordinatorClient.publishLink ⟨2⟩ ⟨1⟩
                (mkLink ⟨8⟩ ⟨1⟩ ⟨2⟩ ⟨1⟩ .tcp 1000),
              CoordinatorClient.publishCongestion ⟨8⟩
                { hardLimitExceeded := true } ] ++
          [.disconnect ⟨4⟩])).any
        (fun reached =>
          (linkShown ⟨7⟩ reached.1).isNone &&
          ((linkShown ⟨8⟩ reached.1).any fun link =>
            link.congestion.hardLimitExceeded) &&
          ((endpointShown ⟨2⟩ reached.1).any fun endpoint =>
            endpoint.worker = ⟨2⟩ && !endpoint.reachable &&
              !endpoint.ready) &&
          stands (listsEndpointAs ⟨1⟩ ⟨2⟩) (enrolls ⟨1⟩) reached.1) =
        true := by
    decide +kernel
  obtain ⟨trace, final, run, holds⟩ := exists_run_of_replay? checked
  simp only [Bool.and_eq_true, Option.isNone_iff_eq_none] at holds
  obtain ⟨⟨⟨gone, congested⟩, withdrawn⟩, listed⟩ := holds
  obtain ⟨endpoints, links, lists⟩ := snapshot_shows_what_was_published run
  refine ⟨trace, final, run, ?_, ?_, ?_, ?_⟩
  · rw [links, gone]
  · rw [links, congested]
  · rw [endpoints]
    simpa using withdrawn
  · exact ((lists ⟨1⟩).1 ⟨2⟩).mpr (stands_iff.mp listed)

end Coordinator

end CommunicationPlanner
