import CommunicationPlanner.Feasibility

namespace CommunicationPlanner

open OrderedCollections

/-!
# Revalidation before execution

`revalidatePlan` compares a plan with the current snapshot: dynamic generations
must not have moved, every bound endpoint and link must still have the bound
generation and be usable, every stage of every candidate path must be usable,
and every staging resource must have capacity.  As in the hard filter, each
loop returns at the first failure.

`Revalidated` states what a plan that passes satisfies.
-/

/--
`RevalidationResult`: whether the plan passes, and what speaks against it.
-/
structure RevalidationResult where
  ok : Bool := false
  feasibility : Feasibility := .revalidationRequired
  detail : Text := []
  changes : List Text := []

/-- A failure records its detail as the one change. -/
def RevalidationResult.failed
    (feasibility : Feasibility)
    (detail : Text) : RevalidationResult :=
  { ok := false
    feasibility := feasibility
    detail := detail
    changes := [detail] }

/-- The first failure of one stage. -/
def stageFailure
    (snapshot : EvidenceSnapshot)
    (stage : Stage) : Option RevalidationResult :=
  match snapshot.linkMap[stage.link]? with
  | none =>
      some (.failed .revalidationRequired
        (ascii "link missing: " ++ stage.link.str))
  | some link =>
      if !link.health.healthy then
        some (.failed .feasible (ascii "link unhealthy"))
      else if link.congestion.hardLimitExceeded then
        some (.failed .feasible (ascii "link congestion hard limit"))
      else
        match snapshot.endpointMap[stage.source]?,
            snapshot.endpointMap[stage.destination]? with
        | some source, some destination =>
            if !endpointFresh source snapshot ||
                !endpointFresh destination snapshot then
              some (.failed .rejectStaleEndpoint
                (ascii "endpoint incarnation stale"))
            else if !source.reachable || !source.ready ||
                !destination.reachable || !destination.ready then
              some (.failed .feasible (ascii "endpoint not ready"))
            else
              none
        | _, _ => some (.failed .feasible (ascii "endpoint missing"))

/-- `revalidatePath`: the first stage that fails decides. -/
def revalidatePath
    (path : Path)
    (snapshot : EvidenceSnapshot) : RevalidationResult :=
  match path.stages.findSome? (stageFailure snapshot) with
  | some failure => failure
  | none => { ok := true, feasibility := .feasible }

/-- The first failure among the generations of the whole snapshot. -/
def generationFailure
    (plan : CommunicationPlan)
    (snapshot : EvidenceSnapshot) : Option RevalidationResult :=
  if snapshot.topologyGeneration < plan.topologyGeneration then
    some (.failed .revalidationRequired
      (ascii "topology generation regressed"))
  else if !plan.congestionGeneration.isNull ∧
      snapshot.congestionGeneration ≠ plan.congestionGeneration then
    some (.failed .revalidationRequired
      (ascii "congestion generation advanced"))
  else if !plan.capacityGeneration.isNull ∧
      snapshot.capacityGeneration ≠ plan.capacityGeneration then
    some (.failed .revalidationRequired
      (ascii "capacity generation advanced"))
  else if !plan.reservationGeneration.isNull ∧
      snapshot.reservationGeneration ≠ plan.reservationGeneration then
    some (.failed .revalidationRequired
      (ascii "reservation generation advanced"))
  else
    none

/-- The first failure of one bound endpoint. -/
def boundEndpointFailure
    (snapshot : EvidenceSnapshot)
    (bound : EndpointId × EndpointGeneration) : Option RevalidationResult :=
  let named := ascii "endpoint " ++ bound.1.str
  match snapshot.endpointMap[bound.1]? with
  | none =>
      some (.failed .revalidationRequired (named ++ ascii " missing"))
  | some endpoint =>
      if endpoint.generation ≠ bound.2 then
        some (.failed .revalidationRequired
          (named ++ ascii " generation changed"))
      else if !endpointFresh endpoint snapshot || !endpoint.reachable ||
          !endpoint.ready then
        some (.failed .rejectStaleEndpoint
          (named ++ ascii " no longer fresh/ready"))
      else
        none

/-- The first failure of one bound link. -/
def boundLinkFailure
    (snapshot : EvidenceSnapshot)
    (bound : LinkId × LinkGeneration) : Option RevalidationResult :=
  let named := ascii "link " ++ bound.1.str
  match snapshot.linkMap[bound.1]? with
  | none =>
      some (.failed .revalidationRequired (named ++ ascii " missing"))
  | some link =>
      if link.generation ≠ bound.2 then
        some (.failed .revalidationRequired
          (named ++ ascii " generation changed"))
      else if !link.health.healthy || link.congestion.hardLimitExceeded then
        some (.failed .revalidationRequired
          (named ++ ascii " unhealthy/congested"))
      else
        none

/-- The failure of one candidate path, handed on as it is. -/
def pathFailure
    (snapshot : EvidenceSnapshot)
    (path : Path) : Option RevalidationResult :=
  let result := revalidatePath path snapshot
  if !result.ok then some result else none

/-- The failure of one staging resource: known, and with capacity everywhere. -/
def stagingFailure
    (snapshot : EvidenceSnapshot)
    (resource : ResourceId) : Option RevalidationResult :=
  let named := ascii "staging resource " ++ resource.str
  let entries := snapshot.resourceCapacities.filter fun entry =>
    entry.1 = resource
  if entries.any fun entry => entry.2.usable.count < 1 then
    some (.failed .revalidationRequired (named ++ ascii " unavailable"))
  else if entries.isEmpty then
    some (.failed .revalidationRequired (named ++ ascii " not committed"))
  else
    none

/-- `revalidatePlan`: the first failure decides. -/
def revalidatePlan
    (plan : CommunicationPlan)
    (snapshot : EvidenceSnapshot) : RevalidationResult :=
  let failure :=
    ((((generationFailure plan snapshot).or
      (plan.endpointGenerations.findSome? (boundEndpointFailure snapshot))).or
      (plan.linkGenerations.findSome? (boundLinkFailure snapshot))).or
      (plan.candidatePaths.findSome? (pathFailure snapshot))).or
      (plan.requiredStagingResources.findSome? (stagingFailure snapshot))
  match failure with
  | some failure => failure
  | none =>
      { ok := true
        feasibility :=
          if plan.candidatePaths.all fun path =>
              (revalidatePath path snapshot).feasibility = .feasible then
            .feasible
          else
            .revalidationRequired }

/-! ## What a revalidated plan satisfies -/

/-- A bound endpoint is still there, with its generation, and usable. -/
structure EndpointCurrent
    (snapshot : EvidenceSnapshot)
    (bound : EndpointId × EndpointGeneration)
    (endpoint : Endpoint) : Prop where
  found : snapshot.endpointMap[bound.1]? = some endpoint
  generation : endpoint.generation = bound.2
  fresh : endpointFresh endpoint snapshot = true
  reachable : endpoint.reachable = true
  ready : endpoint.ready = true

/-- A bound link is still there, with its generation, and usable. -/
structure LinkCurrent
    (snapshot : EvidenceSnapshot)
    (bound : LinkId × LinkGeneration)
    (link : Link) : Prop where
  found : snapshot.linkMap[bound.1]? = some link
  generation : link.generation = bound.2
  healthy : link.health.healthy = true
  belowHardLimit : link.congestion.hardLimitExceeded = false

/-- What every plan that passes revalidation satisfies. -/
structure Revalidated
    (plan : CommunicationPlan)
    (snapshot : EvidenceSnapshot) : Prop where
  endpoints :
    ∀ bound ∈ plan.endpointGenerations,
      ∃ endpoint, EndpointCurrent snapshot bound endpoint
  links :
    ∀ bound ∈ plan.linkGenerations,
      ∃ link, LinkCurrent snapshot bound link
  staging :
    ∀ resource ∈ plan.requiredStagingResources,
      ∃ capacity, (resource, capacity) ∈ snapshot.resourceCapacities

/-- A bound endpoint passes exactly when it is current. -/
theorem boundEndpointFailure_eq_none_iff
    {snapshot : EvidenceSnapshot}
    {bound : EndpointId × EndpointGeneration} :
    boundEndpointFailure snapshot bound = none ↔
      ∃ endpoint, EndpointCurrent snapshot bound endpoint := by
  unfold boundEndpointFailure
  constructor
  · intro passed
    cases found : snapshot.endpointMap[bound.1]? with
    | none =>
        simp [found] at passed
    | some endpoint =>
        simp only [found] at passed
        split_ifs at passed with changed stale
        have usable :
            (endpointFresh endpoint snapshot = true ∧
              endpoint.reachable = true) ∧ endpoint.ready = true := by
          simpa using stale
        exact ⟨endpoint, found, by simpa using changed, usable.1.1,
          usable.1.2, usable.2⟩
  · rintro ⟨endpoint, found, generation, fresh, reachable, ready⟩
    simp [found, generation, fresh, reachable, ready]

/-- A bound link passes exactly when it is current. -/
theorem boundLinkFailure_eq_none_iff
    {snapshot : EvidenceSnapshot}
    {bound : LinkId × LinkGeneration} :
    boundLinkFailure snapshot bound = none ↔
      ∃ link, LinkCurrent snapshot bound link := by
  unfold boundLinkFailure
  constructor
  · intro passed
    cases found : snapshot.linkMap[bound.1]? with
    | none =>
        simp [found] at passed
    | some link =>
        simp only [found] at passed
        split_ifs at passed with changed unusable
        have usable :
            link.health.healthy = true ∧
              link.congestion.hardLimitExceeded = false := by
          simpa using unusable
        exact ⟨link, found, by simpa using changed, usable.1, usable.2⟩
  · rintro ⟨link, found, generation, healthy, belowHardLimit⟩
    simp [found, generation, healthy, belowHardLimit]

private theorem ok_boundEndpointFailure
    {snapshot : EvidenceSnapshot}
    {bound : EndpointId × EndpointGeneration}
    {failure : RevalidationResult}
    (failed : boundEndpointFailure snapshot bound = some failure) :
    failure.ok = false := by
  unfold boundEndpointFailure at failed
  simp only at failed
  split at failed
  · cases failed
    rfl
  · split_ifs at failed <;> cases failed <;> rfl

private theorem ok_boundLinkFailure
    {snapshot : EvidenceSnapshot}
    {bound : LinkId × LinkGeneration}
    {failure : RevalidationResult}
    (failed : boundLinkFailure snapshot bound = some failure) :
    failure.ok = false := by
  unfold boundLinkFailure at failed
  simp only at failed
  split at failed
  · cases failed
    rfl
  · split_ifs at failed <;> cases failed <;> rfl

private theorem ok_generationFailure
    {plan : CommunicationPlan}
    {snapshot : EvidenceSnapshot}
    {failure : RevalidationResult}
    (failed : generationFailure plan snapshot = some failure) :
    failure.ok = false := by
  unfold generationFailure at failed
  split_ifs at failed <;> cases failed <;> rfl

private theorem ok_pathFailure
    {snapshot : EvidenceSnapshot}
    {path : Path}
    {failure : RevalidationResult}
    (failed : pathFailure snapshot path = some failure) :
    failure.ok = false := by
  unfold pathFailure at failed
  simp only at failed
  split_ifs at failed with notOk
  cases failed
  simpa using notOk

private theorem ok_stagingFailure
    {snapshot : EvidenceSnapshot}
    {resource : ResourceId}
    {failure : RevalidationResult}
    (failed : stagingFailure snapshot resource = some failure) :
    failure.ok = false := by
  unfold stagingFailure at failed
  simp only at failed
  split_ifs at failed <;> cases failed <;> rfl

/-- A failure of a stage is no success. -/
theorem ok_stageFailure
    {snapshot : EvidenceSnapshot}
    {stage : Stage}
    {failure : RevalidationResult}
    (failed : stageFailure snapshot stage = some failure) :
    failure.ok = false := by
  unfold stageFailure at failed
  split at failed
  · cases failed
    rfl
  · split_ifs at failed
    · cases failed
      rfl
    · cases failed
      rfl
    · split at failed
      · split_ifs at failed <;> cases failed <;> rfl
      · cases failed
        rfl

/-- A search whose hits are failures finds nothing in a passing run. -/
private theorem forall_eq_none_of_ok
    {α : Type}
    {items : List α}
    {failureOf : α → Option RevalidationResult}
    (fails :
      ∀ item failure, failureOf item = some failure → failure.ok = false) :
    ∀ failure, items.findSome? failureOf = some failure →
      failure.ok = false := by
  intro failure found
  obtain ⟨item, _, failed⟩ := List.exists_of_findSome?_eq_some found
  exact fails item failure failed

/-- A passing revalidation found no failure of any kind. -/
theorem failures_eq_none_of_ok
    {plan : CommunicationPlan}
    {snapshot : EvidenceSnapshot}
    (passed : (revalidatePlan plan snapshot).ok = true) :
    generationFailure plan snapshot = none ∧
    (∀ bound ∈ plan.endpointGenerations,
      boundEndpointFailure snapshot bound = none) ∧
    (∀ bound ∈ plan.linkGenerations,
      boundLinkFailure snapshot bound = none) ∧
    (∀ path ∈ plan.candidatePaths, pathFailure snapshot path = none) ∧
    ∀ resource ∈ plan.requiredStagingResources,
      stagingFailure snapshot resource = none := by
  unfold revalidatePlan at passed
  simp only at passed
  split at passed
  · rename_i failure found
    simp only [Option.or_eq_some_iff] at found
    have notOk : failure.ok = false := by
      rcases found with (((generation | ⟨_, endpoint⟩) | ⟨_, link⟩) |
        ⟨_, path⟩) | ⟨_, staging⟩
      · exact ok_generationFailure generation
      · exact forall_eq_none_of_ok
          (fun _ _ => ok_boundEndpointFailure) failure endpoint
      · exact forall_eq_none_of_ok
          (fun _ _ => ok_boundLinkFailure) failure link
      · exact forall_eq_none_of_ok
          (fun _ _ => ok_pathFailure) failure path
      · exact forall_eq_none_of_ok
          (fun _ _ => ok_stagingFailure) failure staging
    rw [notOk] at passed
    cases passed
  · rename_i found
    simp only [Option.or_eq_none_iff, List.findSome?_eq_none_iff] at found
    obtain ⟨⟨⟨⟨generation, endpoints⟩, links⟩, paths⟩, staging⟩ := found
    exact ⟨generation, endpoints, links, paths, staging⟩

/-- Revalidation passes if there is no failure of any kind. -/
theorem ok_of_failures_eq_none
    {plan : CommunicationPlan}
    {snapshot : EvidenceSnapshot}
    (generation : generationFailure plan snapshot = none)
    (endpoints :
      ∀ bound ∈ plan.endpointGenerations,
        boundEndpointFailure snapshot bound = none)
    (links :
      ∀ bound ∈ plan.linkGenerations, boundLinkFailure snapshot bound = none)
    (paths : ∀ path ∈ plan.candidatePaths, pathFailure snapshot path = none)
    (staging :
      ∀ resource ∈ plan.requiredStagingResources,
        stagingFailure snapshot resource = none) :
    (revalidatePlan plan snapshot).ok = true := by
  unfold revalidatePlan
  rw [List.findSome?_eq_none_iff.mpr endpoints,
    List.findSome?_eq_none_iff.mpr links, List.findSome?_eq_none_iff.mpr paths,
    List.findSome?_eq_none_iff.mpr staging, generation]
  rfl

/-- A plan that passes revalidation is bound to current, usable evidence. -/
theorem revalidated_of_ok
    {plan : CommunicationPlan}
    {snapshot : EvidenceSnapshot}
    (passed : (revalidatePlan plan snapshot).ok = true) :
    Revalidated plan snapshot := by
  obtain ⟨_, endpoints, links, _, staging⟩ := failures_eq_none_of_ok passed
  refine ⟨?_, ?_, ?_⟩
  · intro bound member
    exact boundEndpointFailure_eq_none_iff.mp (endpoints bound member)
  · intro bound member
    exact boundLinkFailure_eq_none_iff.mp (links bound member)
  · intro resource member
    have accepted := staging resource member
    unfold stagingFailure at accepted
    simp only at accepted
    split_ifs at accepted with unavailable uncommitted
    simpa using uncommitted

end CommunicationPlanner
