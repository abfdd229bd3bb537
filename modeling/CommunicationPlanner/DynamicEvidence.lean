import CommunicationPlanner.Restarts

namespace CommunicationPlanner

open OrderedCollections TransitionRun

/-!
# Dynamic evidence at revalidation

Revalidation does not look at the congestion and the capacity evidence of a
link.  It compares the generation counters of the snapshot with those the plan
was made under, and these move with `PUBLISH_CONGESTION` and
`PUBLISH_CAPACITY` only: a link that is published again brings its own records
along, and a new process counts from one.
-/

/-- Revalidation sees no difference between the two generations. -/
def Generation.stillBound
    {Tag : Type}
    (bound current : Generation Tag) : Bool :=
  bound.isNull || current = bound

/-- If the plan is bound to the link, one of its records is that of planning. -/
def Link.repeats
    {Record : Type}
    [DecidableEq Record]
    (record : Link → Record)
    (plan : CommunicationPlan)
    (planning : EvidenceSnapshot)
    (link : Link) : Bool :=
  !plan.linkGenerations.contains (link.id, link.generation) ||
    planning.links.all fun known =>
      known.id ≠ link.id || record link = record known

/-- As long as revalidation sees no difference, there is none. -/
structure EvidenceKept
    (plan : CommunicationPlan)
    (planning current : EvidenceSnapshot) : Prop where
  congestion :
    plan.congestionGeneration.stillBound current.congestionGeneration = true →
    ∀ link ∈ current.links,
      link.repeats (fun known => known.congestion) plan planning = true
  capacity :
    plan.capacityGeneration.stillBound current.capacityGeneration = true →
    ∀ link ∈ current.links,
      link.repeats (fun known => known.capacityEvidence) plan planning = true

/-- A link of the planning snapshot repeats its own records. -/
theorem Link.repeats_of_mem
    {Record : Type}
    [DecidableEq Record]
    (record : Link → Record)
    (plan : CommunicationPlan)
    {planning : EvidenceSnapshot}
    (distinct : DistinctIds planning)
    {link : Link}
    (member : link ∈ planning.links) :
    link.repeats record plan planning = true := by
  simp only [Link.repeats, Bool.or_eq_true, List.all_eq_true,
    decide_eq_true_eq]
  refine .inr ?_
  intro known knownMember
  by_cases sameId : known.id = link.id
  · have same : known = link :=
      List.inj_on_of_nodup_map distinct.links knownMember member sameId
    exact .inr (by rw [same])
  · exact .inl sameId

theorem evidenceKept_refl
    {planning : EvidenceSnapshot}
    (distinct : DistinctIds planning)
    (plan : CommunicationPlan) :
    EvidenceKept plan planning planning := by
  constructor
  · intro _ link member
    exact Link.repeats_of_mem _ plan distinct member
  · intro _ link member
    exact Link.repeats_of_mem _ plan distinct member

namespace Registry

variable
  {registry : Registry}
  {plan : CommunicationPlan}
  {planning : EvidenceSnapshot}

/--
A publication that revalidation will not notice brings the records of planning:
a link under a bound generation while the counters are those of the plan, and
records that move their counter to the generation of the plan.
-/
def repeatsEvidence
    (registry : Registry)
    (plan : CommunicationPlan)
    (planning : EvidenceSnapshot)
    (event : Event) : Bool :=
  match registry.effect event with
  | .linkPublished _ link =>
      (!plan.congestionGeneration.stillBound
          registry.snap.congestionGeneration ||
        link.repeats (fun known => known.congestion) plan planning) &&
      (!plan.capacityGeneration.stillBound registry.snap.capacityGeneration ||
        link.repeats (fun known => known.capacityEvidence) plan planning)
  | .congestionPublished id congestion =>
      !plan.congestionGeneration.stillBound
          registry.snap.congestionGeneration.next ||
        (updateLinks registry.snap.links id fun known =>
          { known with congestion := congestion }).all fun link =>
            link.repeats (fun known => known.congestion) plan planning
  | .capacityPublished id capacity =>
      !plan.capacityGeneration.stillBound
          registry.snap.capacityGeneration.next ||
        (updateLinks registry.snap.links id fun known =>
          { known with capacityEvidence := capacity }).all fun link =>
            link.repeats (fun known => known.capacityEvidence) plan planning
  | _ => true

/-- An update of another record leaves a record as it is. -/
theorem repeats_updateLinks
    {Record : Type}
    [DecidableEq Record]
    {record : Link → Record}
    {links : List Link}
    {id : LinkId}
    {update : Link → Link}
    (sameId : ∀ link, (update link).id = link.id)
    (sameGeneration : ∀ link, (update link).generation = link.generation)
    (sameRecord : ∀ link, record (update link) = record link)
    (repeats : ∀ link ∈ links, link.repeats record plan planning = true) :
    ∀ link ∈ updateLinks links id update,
      link.repeats record plan planning = true := by
  intro link member
  obtain ⟨old, oldMember, rfl⟩ := List.mem_map.mp member
  have kept := repeats old oldMember
  split_ifs
  · simpa only [Link.repeats, sameId, sameGeneration, sameRecord] using kept
  · exact kept

/-- The end of a connection removes links, and leaves the counters alone. -/
private theorem evidenceKept_fenceWorker
    (kept : EvidenceKept plan planning registry.snap)
    (worker : WorkerId) :
    EvidenceKept plan planning (registry.fenceWorker worker).snap := by
  unfold fenceWorker
  split
  · exact ⟨kept.congestion, kept.capacity⟩
  · constructor
    · intro bound link member
      exact kept.congestion bound link (List.mem_of_mem_filter member)
    · intro bound link member
      exact kept.capacity bound link (List.mem_of_mem_filter member)

/-- The evidence is kept by every event that repeats it. -/
theorem evidenceKept_apply
    (distinct : DistinctIds registry.snap)
    (kept : EvidenceKept plan planning registry.snap)
    {event : Event}
    (repeats : registry.repeatsEvidence plan planning event = true) :
    EvidenceKept plan planning
      (registry.apply (registry.effect event)).snap := by
  cases isEffect : registry.effect event with
  | nothing | enrolled | endpointPublished =>
      exact ⟨kept.congestion, kept.capacity⟩
  | linkPublished worker published =>
      simp only [repeatsEvidence, isEffect, Bool.and_eq_true,
        Bool.or_eq_true, Bool.not_eq_true'] at repeats
      constructor
      · intro bound link member
        rcases (mem_replaceOrAppend distinct.links).mp member with
          rfl | ⟨old, _⟩
        · exact repeats.1.resolve_left (ne_false_of_eq_true bound)
        · exact kept.congestion bound link old
      · intro bound link member
        rcases (mem_replaceOrAppend distinct.links).mp member with
          rfl | ⟨old, _⟩
        · exact repeats.2.resolve_left (ne_false_of_eq_true bound)
        · exact kept.capacity bound link old
  | congestionPublished id congestion =>
      simp only [repeatsEvidence, isEffect, Bool.or_eq_true,
        Bool.not_eq_true', List.all_eq_true] at repeats
      constructor
      · intro bound
        exact repeats.resolve_left (ne_false_of_eq_true bound)
      · intro bound
        exact repeats_updateLinks (fun _ => rfl) (fun _ => rfl)
          (fun _ => rfl) (kept.capacity bound)
  | capacityPublished id capacity =>
      simp only [repeatsEvidence, isEffect, Bool.or_eq_true,
        Bool.not_eq_true', List.all_eq_true] at repeats
      constructor
      · intro bound
        exact repeats_updateLinks (fun _ => rfl) (fun _ => rfl)
          (fun _ => rfl) (kept.congestion bound)
      · intro bound
        exact repeats.resolve_left (ne_false_of_eq_true bound)
  | disconnected socket worker =>
      exact evidenceKept_fenceWorker kept worker

end Registry

/-! ## From planning to revalidation -/

section

variable
  {request : CommunicationRequest}
  {planning current : EvidenceSnapshot}
  {weights : RankingWeights}
  {bounds : Bounds}
  {plan : CommunicationPlan}

/-- The link of a stage has the congestion and the capacity of planning. -/
def SameEvidence
    (planning current : EvidenceSnapshot)
    (stage : Stage) : Prop :=
  ∃ known link,
    planning.linkMap[stage.link]? = some known ∧
    current.linkMap[stage.link]? = some link ∧
    link.congestion = known.congestion ∧
    link.capacityEvidence = known.capacityEvidence

/-- Revalidation passes only under the generations of the plan. -/
theorem stillBound_of_ok
    (passed : (revalidatePlan plan current).ok = true) :
    plan.congestionGeneration.stillBound current.congestionGeneration =
        true ∧
      plan.capacityGeneration.stillBound current.capacityGeneration =
        true := by
  have unmoved := (failures_eq_none_of_ok passed).1
  unfold generationFailure at unmoved
  split_ifs at unmoved with _ congestion capacity
  simp only [Generation.stillBound, Bool.or_eq_true, decide_eq_true_eq]
  constructor
  · by_contra moved
    rw [not_or, Bool.not_eq_true, ← Bool.not_eq_true'] at moved
    exact congestion moved
  · by_contra moved
    rw [not_or, Bool.not_eq_true, ← Bool.not_eq_true'] at moved
    exact capacity moved

/-- A plan that passes revalidation has the evidence of its planning. -/
theorem Planned.sameEvidence_of_ok
    (planned : Planned request planning weights bounds plan)
    (kept : EvidenceKept plan planning current)
    (passed : (revalidatePlan plan current).ok = true)
    {path : Path}
    (inPlan : path ∈ plan.candidatePaths)
    {stage : Stage}
    (inPath : stage ∈ path.stages) :
    SameEvidence planning current stage := by
  obtain ⟨known, _, _, admissible⟩ := planned.hop_admissible inPlan inPath
  have isBound := planned.link_bound inPlan inPath admissible.linkFound
  obtain ⟨knownMember, knownId⟩ :=
    mem_of_getElem?_indexBy admissible.linkFound
  obtain ⟨link, now⟩ := (revalidated_of_ok passed).links _ isBound
  obtain ⟨member, sameId⟩ := mem_of_getElem?_indexBy now.found
  obtain ⟨congestionBound, capacityBound⟩ := stillBound_of_ok passed
  have linkBound : (link.id, link.generation) ∈ plan.linkGenerations := by
    rw [sameId, now.generation]
    exact isBound
  have congestion := kept.congestion congestionBound link member
  have capacity := kept.capacity capacityBound link member
  have listed :
      plan.linkGenerations.contains (link.id, link.generation) = true :=
    List.contains_iff_mem.mpr linkBound
  simp only [Link.repeats, listed, Bool.not_true, Bool.false_or,
    List.all_eq_true, Bool.or_eq_true, decide_eq_true_eq]
    at congestion capacity
  refine ⟨known, link, admissible.linkFound, ?_, ?_, ?_⟩
  · have lookup := now.found
    simp only [knownId] at lookup
    exact lookup
  · exact (congestion known knownMember).resolve_left
      (not_not.mpr sameId.symm)
  · exact (capacity known knownMember).resolve_left (not_not.mpr sameId.symm)

end

namespace Coordinator

variable
  {config : Config}
  {store : Option (List UInt8)}
  {trace : List LifeStep}
  {final : Coordinator}

/--
From the planning of a request on, in whatever process, let every publication
that revalidation will not notice repeat the records of planning.  Then a plan
whose revalidation succeeds has the congestion and the capacity of planning on
every link of its candidate paths.
-/
theorem revalidation_meets_planned_evidence
    (lifetime : Lifetime config store trace final) :
    ∀ past planningStep submission between checkingStep revalidation future
        request plan,
      trace = past ++ planningStep :: (between ++ checkingStep :: future) →
      processStep? planningStep = some submission →
      submits submission request plan →
      (∀ lifeStep ∈ between, ∀ step,
        processStep? lifeStep = some step →
        step.before.registry.repeatsEvidence plan
          submission.before.registry.snap step.event = true) →
      processStep? checkingStep = some revalidation →
      revalidationSucceeds revalidation plan →
      ∀ path ∈ plan.candidatePaths, ∀ stage ∈ path.stages,
        SameEvidence submission.before.registry.snap
          revalidation.before.registry.snap stage := by
  rintro past planningStep submission between checkingStep revalidation future
    request plan rfl isSubmission submitted repeats isRevalidation succeeded
    path inPlan stage inPath
  obtain ⟨pastLife, planningStepped, laterLife⟩ := lifetime.cut
  obtain ⟨betweenLife, checkingStepped, _⟩ := laterLife.cut
  obtain ⟨sameBefore, sameAfter, submissionStepped⟩ :=
    step_of_processStep? planningStepped isSubmission
  obtain ⟨sameChecked, _, revalidationStepped⟩ :=
    step_of_processStep? checkingStepped isRevalidation
  have planned :=
    (produced_of_submits submission submissionStepped submitted).1.planned
  have distinct : DistinctIds submission.before.registry.snap := by
    rw [sameBefore]
    exact distinctIds_of_lifetime pastLife
  have kept :
      EvidenceKept plan submission.before.registry.snap
          checkingStep.before.registry.snap ∧
        DistinctIds checkingStep.before.registry.snap := by
    refine betweenLife.invariant
      (fun state =>
        EvidenceKept plan submission.before.registry.snap
            state.registry.snap ∧
          DistinctIds state.registry.snap) ?_ ?_
    · rw [← sameAfter, registry_of_submits submissionStepped submitted]
      exact ⟨evidenceKept_refl distinct plan, distinct⟩
    · rintro lifeStep member lifeStepped ⟨kept, distinctBefore⟩
      rcases lifeStep?_cases lifeStepped with
        ⟨handled, isProcess, stepped⟩ | ⟨_, restarted, _⟩
      · have repeated := repeats lifeStep member
          ⟨lifeStep.before, handled, lifeStep.outputs, lifeStep.after⟩
          (by simp [processStep?, isProcess])
        rw [registry_of_step? stepped, Registry.next_eq_apply]
        exact ⟨Registry.evidenceKept_apply distinctBefore kept repeated,
          Registry.distinctIds_apply distinctBefore _⟩
      · rw [restarted]
        exact ⟨⟨fun _ => List.forall_mem_nil _, fun _ => List.forall_mem_nil _⟩,
          ⟨List.nodup_nil, List.nodup_nil⟩⟩
  rw [← sameChecked] at kept
  exact planned.sameEvidence_of_ok kept.1
    (revalidated_of_revalidationSucceeds revalidation revalidationStepped
      succeeded) inPlan inPath

/--
A plan is made and saved; in the next process the same worker publishes the same
endpoints and a link, and the plan is revalidated.
-/
def redeploymentScenario
    (link : Link)
    (test : Coordinator → CommunicationPlan → List LifeStep → Coordinator →
      Bool) : Bool :=
  (replay? (lifeStep? defaultConfig) (start none)
    ((deployment ⟨4⟩ ⟨1⟩).map .process)).any fun planning =>
    (step? defaultConfig planning.2
      (.receive ⟨4⟩ (CoordinatorClient.submitRequest
        (directRequest ⟨5⟩)))).any fun submitted =>
      (replay? (lifeStep? defaultConfig) submitted.1
        ([.process (.receive ⟨4⟩ CoordinatorClient.save), .restart] ++
          ((deployment ⟨4⟩ ⟨1⟩).dropLast ++
            [Event.receive ⟨4⟩
              (CoordinatorClient.publishLink ⟨1⟩ ⟨1⟩ link)]).map
            .process)).any fun redeployed =>
        (step? defaultConfig redeployed.2
          (.receive ⟨4⟩ (CoordinatorClient.revalidate ⟨1⟩))).any fun _ =>
          planning.2.planState? ⟨1⟩ ≠ submitted.1.planState? ⟨1⟩ &&
          submitted.1.ledger.plans[(⟨1⟩ : CommunicationPlanId)]?.any
            fun record =>
              redeployed.2.ledger.plans[(⟨1⟩ : CommunicationPlanId)]?.any
                fun recovered =>
                  recovered.plan = record.plan &&
                  (revalidatePlan record.plan
                    redeployed.2.registry.snap).ok &&
                  test planning.2 record.plan redeployed.1 redeployed.2

private theorem exists_revalidation_of_scenario
    {link : Link}
    {test : Coordinator → CommunicationPlan → List LifeStep → Coordinator →
      Bool}
    (checked : redeploymentScenario link test = true) :
    ∃ past planningStep submission between checkingStep revalidation plan,
      Lifetime defaultConfig none
        (past ++ planningStep :: (between ++ [checkingStep]))
        checkingStep.after ∧
      processStep? planningStep = some submission ∧
      submits submission (directRequest ⟨5⟩) plan ∧
      processStep? checkingStep = some revalidation ∧
      revalidationSucceeds revalidation plan ∧
      test submission.before plan between revalidation.before = true := by
  obtain ⟨past, planning, pastLife, holds⟩ := exists_run_of_replay? checked
  obtain ⟨⟨submitted, replies⟩, submitStepped, holds⟩ :=
    (Option.any_eq_true _ _).mp holds
  obtain ⟨between, redeployed, betweenLife, holds⟩ :=
    exists_run_of_replay? holds
  obtain ⟨⟨revalidated, answers⟩, revalidateStepped, holds⟩ :=
    (Option.any_eq_true _ _).mp holds
  rw [Bool.and_eq_true, decide_eq_true_eq] at holds
  obtain ⟨changed, holds⟩ := holds
  obtain ⟨record, entered, holds⟩ := (Option.any_eq_true _ _).mp holds
  obtain ⟨recovered, found, holds⟩ := (Option.any_eq_true _ _).mp holds
  simp only [Bool.and_eq_true, decide_eq_true_eq] at holds
  obtain ⟨⟨samePlan, passed⟩, holds⟩ := holds
  have whole := lifetime_snoc
    ((lifetime_snoc pastLife submitStepped).append betweenLife)
    revalidateStepped
  rw [List.append_assoc, List.append_assoc, List.singleton_append] at whole
  have succeeded := revalidationSucceeds_of_revalidated revalidateStepped rfl
    found (by rw [samePlan]; exact passed)
  rw [samePlan] at succeeded
  exact ⟨past, _, _, between, _, _, record.plan, whole, rfl,
    submits_of_entered submitStepped rfl entered changed, rfl, succeeded,
    holds⟩

/-- The next process publishes the same link, and the plan is still good. -/
theorem revalidation_after_same_redeployment :
    ∃ past planningStep submission between checkingStep revalidation plan
        path stage,
      Lifetime defaultConfig none
        (past ++ planningStep :: (between ++ [checkingStep]))
        checkingStep.after ∧
      processStep? planningStep = some submission ∧
      submits submission (directRequest ⟨5⟩) plan ∧
      processStep? checkingStep = some revalidation ∧
      revalidationSucceeds revalidation plan ∧
      path ∈ plan.candidatePaths ∧
      stage ∈ path.stages ∧
      SameEvidence submission.before.registry.snap
        revalidation.before.registry.snap stage := by
  have checked :
      redeploymentScenario (mkLink ⟨7⟩ ⟨1⟩ ⟨1⟩ ⟨2⟩ .tcp 1000)
        (fun planning plan between _ =>
          (plan.candidatePaths.any fun path => !path.stages.isEmpty) &&
          between.all fun lifeStep =>
            (processStep? lifeStep).all fun step =>
              step.before.registry.repeatsEvidence plan
                planning.registry.snap step.event) = true := by
    decide +kernel
  obtain ⟨past, planningStep, submission, between, checkingStep, revalidation,
    plan, lifetime, isSubmission, submitted, isRevalidation, succeeded,
    holds⟩ := exists_revalidation_of_scenario checked
  simp only [Bool.and_eq_true, List.any_eq_true, List.all_eq_true,
    Option.all_eq_true, Bool.not_eq_true'] at holds
  obtain ⟨⟨path, inPlan, notEmpty⟩, repeats⟩ := holds
  obtain ⟨stage, inPath⟩ : ∃ stage, stage ∈ path.stages :=
    List.exists_mem_of_ne_nil _ (by simpa using notEmpty)
  exact ⟨past, planningStep, submission, between, checkingStep, revalidation,
    plan, path, stage, lifetime, isSubmission, submitted, isRevalidation,
    succeeded, inPlan, inPath,
    revalidation_meets_planned_evidence lifetime past planningStep submission
      between checkingStep revalidation [] _ plan rfl isSubmission submitted
      repeats isRevalidation succeeded path inPlan stage inPath⟩

/-- The link of the next process has a load, and the plan still passes. -/
theorem revalidation_misses_new_congestion :
    ∃ past planningStep submission between checkingStep revalidation plan
        path stage known link,
      Lifetime defaultConfig none
        (past ++ planningStep :: (between ++ [checkingStep]))
        checkingStep.after ∧
      processStep? planningStep = some submission ∧
      submits submission (directRequest ⟨5⟩) plan ∧
      processStep? checkingStep = some revalidation ∧
      revalidationSucceeds revalidation plan ∧
      path ∈ plan.candidatePaths ∧
      stage ∈ path.stages ∧
      submission.before.registry.snap.linkMap[stage.link]? = some known ∧
      revalidation.before.registry.snap.linkMap[stage.link]? = some link ∧
      link.congestion ≠ known.congestion := by
  have checked :
      redeploymentScenario
        { mkLink ⟨7⟩ ⟨1⟩ ⟨1⟩ ⟨2⟩ .tcp 1000 with
          congestion :=
            { generation := ⟨1⟩
              load := ⟨0x3FE0000000000000⟩
              provenance := .reported } }
        (fun planning plan _ checking =>
          plan.candidatePaths.any fun path =>
            path.stages.any fun stage =>
              planning.registry.snap.linkMap[stage.link]?.any fun known =>
                checking.registry.snap.linkMap[stage.link]?.any fun link =>
                  link.congestion ≠ known.congestion) = true := by
    decide +kernel
  obtain ⟨past, planningStep, submission, between, checkingStep, revalidation,
    plan, lifetime, isSubmission, submitted, isRevalidation, succeeded,
    holds⟩ := exists_revalidation_of_scenario checked
  simp only [List.any_eq_true, Option.any_eq_true, decide_eq_true_eq]
    at holds
  obtain ⟨path, inPlan, stage, inPath, known, knownFound, link, found,
    changed⟩ := holds
  exact ⟨past, planningStep, submission, between, checkingStep, revalidation,
    plan, path, stage, known, link, lifetime, isSubmission, submitted,
    isRevalidation, succeeded, inPlan, inPath, knownFound, found, changed⟩

end Coordinator

end CommunicationPlanner
