import CommunicationPlanner.EvidenceHistory
import CommunicationPlanner.Fencing
import CommunicationPlanner.StagedPlans

namespace CommunicationPlanner

open OrderedCollections TransitionRun

/-!
# How long a plan is good

A plan is bound to the evidence it was made of, and `REVALIDATE` and
`EXECUTION_HANDOFF` compare this with the snapshot as it is.  Whatever happened
in between, the plan passes exactly when nobody reported a load since, it needs
no staging, and its endpoints and links, as they were last published, still
have the bound generations and are usable, each endpoint published by the
current incarnation of its worker.
-/

namespace Coordinator

variable
  {config : Config}
  {store : Option (List UInt8)}
  {trace : List CoordinatorStep}
  {before after final : Coordinator}

/-! ## The generations of the snapshot count the events -/

/-- The step is an accepted `PUBLISH_CONGESTION`. -/
def reportsCongestion (step : CoordinatorStep) : Bool :=
  match step.before.registry.effect step.event with
  | .congestionPublished _ _ => true
  | _ => false

/-- The step is an accepted `PUBLISH_CAPACITY`. -/
def reportsCapacity (step : CoordinatorStep) : Bool :=
  match step.before.registry.effect step.event with
  | .capacityPublished _ _ => true
  | _ => false

/-- The step reports a load, of whatever link. -/
def reportsLoad (step : CoordinatorStep) : Bool :=
  reportsCongestion step || reportsCapacity step

/-- The step is an accepted `PUBLISH_LINK`, or it fences a worker. -/
def changesTopology (step : CoordinatorStep) : Bool :=
  match step.before.registry.effect step.event with
  | .linkPublished _ _ => true
  | .disconnected _ worker => step.before.registry.workers[worker]?.isSome
  | _ => false

/-- A counter that starts at one and is raised by the steps of a kind. -/
theorem counter_of_run
    (run : ProcessRun config store trace final)
    (counter : Registry → UInt64)
    (counts : CoordinatorStep → Bool)
    (starts : counter (start store).registry = 1)
    (steps :
      ∀ step : CoordinatorStep,
        counter (appliedRegistry step) =
          if counts step then
            counter step.before.registry + 1
          else
            counter step.before.registry) :
    counter final.registry = UInt64.ofNat (trace.countP counts + 1) := by
  induction run with
  | nil =>
      rw [starts]
      rfl
  | @snoc before after past event outputs earlier last
      inductionHypothesis =>
      have counted := steps ⟨before, event, outputs, after⟩
      rw [registry_of_step? last, Registry.next_eq_apply]
      unfold appliedRegistry at counted
      rw [counted, List.countP_append, List.countP_singleton]
      split_ifs
      · simp only [inductionHypothesis, UInt64.ofNat_add]
        rfl
      · exact inductionHypothesis

/-- The counters of the snapshot. -/
theorem generations_of_run
    (run : ProcessRun config store trace final) :
    final.registry.snap.congestionGeneration.value =
        UInt64.ofNat (trace.countP reportsCongestion + 1) ∧
    final.registry.snap.capacityGeneration.value =
        UInt64.ofNat (trace.countP reportsCapacity + 1) ∧
    final.registry.snap.topologyGeneration.value =
        UInt64.ofNat (trace.countP changesTopology + 1) := by
  refine ⟨?_, ?_, ?_⟩
  · refine counter_of_run run
      (fun registry => registry.snap.congestionGeneration.value)
      reportsCongestion rfl ?_
    intro step
    unfold appliedRegistry reportsCongestion
    cases step.before.registry.effect step.event with
    | disconnected socket worker =>
        simp only [Registry.apply, Registry.fenceWorker]
        split <;> rfl
    | _ => rfl
  · refine counter_of_run run
      (fun registry => registry.snap.capacityGeneration.value)
      reportsCapacity rfl ?_
    intro step
    unfold appliedRegistry reportsCapacity
    cases step.before.registry.effect step.event with
    | disconnected socket worker =>
        simp only [Registry.apply, Registry.fenceWorker]
        split <;> rfl
    | _ => rfl
  · refine counter_of_run run
      (fun registry => registry.snap.topologyGeneration.value)
      changesTopology rfl ?_
    intro step
    unfold appliedRegistry changesTopology
    cases step.before.registry.effect step.event with
    | disconnected socket worker =>
        simp only [Registry.apply, Registry.fenceWorker]
        split
        · rename_i missing
          simp [missing, Registry.forgetBoots]
        · rename_i info found
          simp [found, Registry.withdraw, Registry.forgetBoots,
            Generation.next]
    | _ => rfl

/-! ## What the generations of a plan say -/

/-- Counters that do not wrap around are equal when they have counted alike. -/
theorem ofNat_countP_inj
    {first second : Nat}
    (firstShort : first + 1 < 2 ^ 64)
    (secondShort : second + 1 < 2 ^ 64) :
    UInt64.ofNat (first + 1) = UInt64.ofNat (second + 1) ↔
      first = second := by
  rw [← UInt64.toNat_inj, UInt64.toNat_ofNat_of_lt' firstShort,
    UInt64.toNat_ofNat_of_lt' secondShort]
  exact Nat.add_right_cancel_iff

theorem ofNat_succ_ne_zero
    {count : Nat}
    (short : count + 1 < 2 ^ 64) :
    UInt64.ofNat (count + 1) ≠ 0 := by
  intro isZero
  have counted := congrArg UInt64.toNat isZero
  rw [UInt64.toNat_ofNat_of_lt' short] at counted
  exact Nat.succ_ne_zero _ counted

/-- The generation that a plan is bound to, and the one of a later snapshot. -/
theorem advanced_iff
    {Tag : Type}
    {bound current : Generation Tag}
    {counts : CoordinatorStep → Bool}
    {past between : List CoordinatorStep}
    (wasBound : bound.value = UInt64.ofNat (past.countP counts + 1))
    (isCurrent :
      current.value = UInt64.ofNat ((past ++ between).countP counts + 1))
    (short : (past ++ between).length + 1 < 2 ^ 64) :
    (!bound.isNull ∧ current ≠ bound) ↔
      ∃ step ∈ between, counts step = true := by
  have total : (past ++ between).countP counts =
      past.countP counts + between.countP counts := List.countP_append
  have few : (past ++ between).countP counts + 1 < 2 ^ 64 :=
    lt_of_le_of_lt (Nat.succ_le_succ List.countP_le_length) short
  have fewPast : past.countP counts + 1 < 2 ^ 64 :=
    lt_of_le_of_lt (Nat.succ_le_succ (total ▸ Nat.le_add_right _ _)) few
  have named : bound.isNull = false := by
    rw [← Bool.not_eq_true, Generation.isNull_iff]
    intro isNull
    rw [isNull] at wasBound
    exact ofNat_succ_ne_zero fewPast wasBound.symm
  have differs :
      current ≠ bound ↔ between.countP counts ≠ 0 := by
    rw [ne_eq, ne_eq, not_iff_not]
    constructor
    · intro same
      rw [same, wasBound] at isCurrent
      have counted := (ofNat_countP_inj fewPast few).mp isCurrent
      rw [total] at counted
      exact (Nat.left_eq_add.mp counted)
    · intro none
      rcases current with ⟨current⟩
      rcases bound with ⟨bound⟩
      simp only at wasBound isCurrent
      rw [isCurrent, total, none, Nat.add_zero, wasBound]
  rw [named, differs, ← Nat.pos_iff_ne_zero, List.countP_pos_iff]
  simp

/-- No event touches the reservations or their generation. -/
theorem reservationGeneration_of_run
    (run : ProcessRun config store trace final) :
    final.registry.snap.reservationGeneration = ⟨1⟩ := by
  refine registry_invariant run
    (fun registry => registry.snap.reservationGeneration = ⟨1⟩) rfl ?_
  intro registry event same
  cases registry.effect event with
  | disconnected socket worker =>
      simp only [Registry.apply, Registry.fenceWorker]
      split <;> exact same
  | _ => exact same

/-- A submission reports no load. -/
theorem reportsNothing_of_submits
    {submission : CoordinatorStep}
    {request : CommunicationRequest}
    {plan : CommunicationPlan}
    (submitted : submits submission request plan) :
    reportsCongestion submission = false ∧
      reportsCapacity submission = false ∧
      changesTopology submission = false := by
  obtain ⟨socket, message, received, kind, _⟩ := submitted
  simp [reportsCongestion, reportsCapacity, changesTopology,
    Registry.effect, received, kind]

section

variable
  {past between : List CoordinatorStep}
  {submission : CoordinatorStep}
  {request : CommunicationRequest}
  {plan : CommunicationPlan}

/-- The generations of the snapshot speak against a plan after a report only. -/
theorem generationFailure_eq_none_iff
    (run :
      ProcessRun config store (past ++ submission :: between) final)
    (submitted : submits submission request plan)
    (short : (past ++ submission :: between).length + 1 < 2 ^ 64) :
    generationFailure plan final.registry.snap = none ↔
      ∀ step ∈ between, reportsLoad step = false := by
  obtain ⟨pastRun, stepped, _⟩ := run.cut
  have bound := (produced_of_submits submission stepped submitted).1.snapshotBound
  obtain ⟨congestionThen, capacityThen, topologyThen⟩ :=
    generations_of_run pastRun
  obtain ⟨congestionNow, capacityNow, topologyNow⟩ := generations_of_run run
  obtain ⟨noCongestion, noCapacity, _⟩ := reportsNothing_of_submits submitted
  have topology :
      ¬final.registry.snap.topologyGeneration < plan.topologyGeneration := by
    have few :
        (past ++ submission :: between).countP changesTopology + 1 <
          2 ^ 64 :=
      lt_of_le_of_lt (Nat.succ_le_succ List.countP_le_length) short
    have fewer :
        past.countP changesTopology ≤
          (past ++ submission :: between).countP changesTopology := by
      rw [List.countP_append]
      exact Nat.le_add_right _ _
    have ordered :
        plan.topologyGeneration.value.toNat ≤
          final.registry.snap.topologyGeneration.value.toNat := by
      rw [bound.topology, topologyThen, topologyNow,
        UInt64.toNat_ofNat_of_lt' few,
        UInt64.toNat_ofNat_of_lt'
          (lt_of_le_of_lt (Nat.succ_le_succ fewer) few)]
      exact Nat.succ_le_succ fewer
    exact not_lt.mpr ordered
  have congestion :
      (!plan.congestionGeneration.isNull ∧
          final.registry.snap.congestionGeneration ≠
            plan.congestionGeneration) ↔
        ∃ step ∈ between, reportsCongestion step = true := by
    rw [bound.congestion,
      advanced_iff congestionThen congestionNow short]
    simp [noCongestion]
  have capacity :
      (!plan.capacityGeneration.isNull ∧
          final.registry.snap.capacityGeneration ≠
            plan.capacityGeneration) ↔
        ∃ step ∈ between, reportsCapacity step = true := by
    rw [bound.capacity, advanced_iff capacityThen capacityNow short]
    simp [noCapacity]
  have reservation :
      final.registry.snap.reservationGeneration =
        plan.reservationGeneration := by
    rw [bound.reservation, reservationGeneration_of_run run,
      reservationGeneration_of_run pastRun]
  unfold generationFailure
  simp only [topology, congestion, capacity, reservation, if_false, ne_eq,
    not_true_eq_false, and_false]
  split_ifs with congested narrowed
  · obtain ⟨step, member, reports⟩ := congested
    simp only [false_iff, not_forall]
    exact ⟨step, member, by simp [reportsLoad, reports]⟩
  · obtain ⟨step, member, reports⟩ := narrowed
    simp only [false_iff, not_forall]
    exact ⟨step, member, by simp [reportsLoad, reports]⟩
  · simp only [true_iff]
    intro step member
    rw [reportsLoad, Bool.or_eq_false_iff, ← Bool.not_eq_true,
      ← Bool.not_eq_true]
    exact ⟨fun reports => congested ⟨step, member, reports⟩,
      fun reports => narrowed ⟨step, member, reports⟩⟩

end

end Coordinator

/-! ## The incarnation behind an endpoint -/

namespace Registry

/-- Every endpoint names the incarnation that published it. -/
def Stamped (registry : Registry) : Prop :=
  ∀ endpoint ∈ registry.snap.endpoints,
    endpoint.worker.isNull = false ∧ endpoint.workerBoot.isNull = false

/-- A worker is the source of its own number, under its own boot. -/
def Mirrored (registry : Registry) : Prop :=
  ∀ worker : WorkerId,
    registry.snap.sourceBoots[(⟨worker.value⟩ : SourceId)]? =
      registry.snap.workerBoots[worker]?.map fun boot => ⟨boot.value⟩

theorem stamped_apply
    {registry : Registry}
    (fences : registry.Fences)
    (distinct : DistinctIds registry.snap)
    (stamped : registry.Stamped)
    (event : Event) :
    (registry.apply (registry.effect event)).Stamped := by
  intro endpoint member
  cases isEffect : registry.effect event with
  | endpointPublished worker published =>
      have guards := effectOf registry event
      rw [isEffect] at member guards
      rcases (mem_replaceOrAppend distinct.endpoints).mp member with
        rfl | ⟨known, _⟩
      · cases guards with
        | endpointPublished socket message kind authority =>
            obtain ⟨info, found, _, sameBoot⟩ := authorized_iff.mp authority
            obtain ⟨workerNamed, bootNamed⟩ := fences.identified _ _ found
            exact ⟨workerNamed, sameBoot ▸ bootNamed⟩
      · exact stamped endpoint known
  | disconnected socket worker =>
      rw [isEffect] at member
      rcases mem_endpoints_fenceWorker.mp member with
        ⟨known, _⟩ | ⟨known, isKnown, _, rfl⟩
      · exact stamped endpoint known
      · exact stamped known isKnown
  | nothing | enrolled | linkPublished | capacityPublished
  | congestionPublished =>
      rw [isEffect] at member
      exact stamped endpoint member

theorem mirrored_apply
    {registry : Registry}
    (mirrored : registry.Mirrored)
    (effect : RegistryEffect) :
    (registry.apply effect).Mirrored := by
  intro wanted
  have sameNumber :
      ∀ worker : WorkerId,
        (⟨worker.value⟩ : SourceId) = ⟨wanted.value⟩ ↔ worker = wanted := by
    rintro ⟨value⟩
    rcases wanted with ⟨number⟩
    simp
  cases effect with
  | enrolled socket worker boot name =>
      simp only [apply, enroll, Std.ExtTreeMap.getElem?_insert,
        Std.LawfulEqCmp.compare_eq_iff_eq, sameNumber]
      split_ifs
      · rfl
      · exact mirrored wanted
  | disconnected socket worker =>
      have forgotten :
          (registry.fenceWorker worker).snap.sourceBoots =
              registry.snap.sourceBoots.erase ⟨worker.value⟩ ∧
            (registry.fenceWorker worker).snap.workerBoots =
              registry.snap.workerBoots.erase worker := by
        unfold fenceWorker
        split <;> exact ⟨rfl, rfl⟩
      simp only [apply, forgotten, Std.ExtTreeMap.getElem?_erase,
        Std.LawfulEqCmp.compare_eq_iff_eq, sameNumber]
      split_ifs
      · rfl
      · exact mirrored wanted
  | nothing | endpointPublished | linkPublished | capacityPublished
  | congestionPublished =>
      exact mirrored wanted

/-- The trusted boots are those of the current incarnations. -/
theorem Fences.trusted_iff
    {registry : Registry}
    (fences : registry.Fences)
    {worker : WorkerId}
    {boot : WorkerBootId} :
    registry.snap.workerBoots[worker]? = some boot ↔
      registry.authorized worker boot = true :=
  (fences.boots worker boot).trans authorized_iff.symm

/-- A source that the endpoint names is current as a worker. -/
def SourceCurrent (registry : Registry) (endpoint : Endpoint) : Prop :=
  endpoint.sourceBoot.isNull = true ∨
    endpoint.source.isNull = false ∧
      registry.authorized ⟨endpoint.source.value⟩
        ⟨endpoint.sourceBoot.value⟩ = true

theorem endpointFresh_iff
    {registry : Registry}
    (fences : registry.Fences)
    (mirrored : registry.Mirrored)
    {endpoint : Endpoint}
    (workerNamed : endpoint.worker.isNull = false)
    (bootNamed : endpoint.workerBoot.isNull = false) :
    endpointFresh endpoint registry.snap = true ↔
      registry.authorized endpoint.worker endpoint.workerBoot = true ∧
        registry.SourceCurrent endpoint := by
  have source :
      registry.snap.sourceBoots[endpoint.source]? = some endpoint.sourceBoot ↔
        registry.authorized ⟨endpoint.source.value⟩
          ⟨endpoint.sourceBoot.value⟩ = true := by
    rw [← fences.trusted_iff]
    refine Iff.trans (Eq.congr_left (mirrored ⟨endpoint.source.value⟩)) ?_
    rw [Option.map_eq_some_iff]
    constructor
    · rintro ⟨boot, trusted, same⟩
      rw [trusted, ← same]
    · intro trusted
      exact ⟨_, trusted, rfl⟩
  simp only [endpointFresh, workerNamed, bootNamed, Bool.false_or,
    Bool.not_false, Bool.true_and, Bool.and_eq_true, beq_iff_eq,
    Bool.or_eq_true, Bool.not_eq_true', fences.trusted_iff, source,
    SourceCurrent]

end Registry

/-! ## From planning to the check -/

/-- With its endpoints and links current, a planned path passes. -/
theorem Planned.pathFailure_eq_none_of_current
    {request : CommunicationRequest}
    {planning current : EvidenceSnapshot}
    {weights : RankingWeights}
    {bounds : Bounds}
    {plan : CommunicationPlan}
    (planned : Planned request planning weights bounds plan)
    (endpoints :
      ∀ bound ∈ plan.endpointGenerations,
        ∃ endpoint, EndpointCurrent current bound endpoint)
    (links :
      ∀ bound ∈ plan.linkGenerations,
        ∃ link, LinkCurrent current bound link)
    {path : Path}
    (inPlan : path ∈ plan.candidatePaths) :
    pathFailure current path = none := by
  have stages : path.stages.findSome? (stageFailure current) = none := by
    rw [List.findSome?_eq_none_iff]
    intro stage inPath
    obtain ⟨link, source, target, admissible⟩ :=
      planned.hop_admissible inPlan inPath
    have visited :
        ∀ id known,
          (stage.source = id ∨ stage.destination = id) →
          planning.endpointMap[id]? = some known →
          ∃ endpoint,
            current.endpointMap[id]? = some endpoint ∧
              endpointFresh endpoint current = true ∧
              endpoint.reachable = true ∧ endpoint.ready = true := by
      intro id known visits found
      obtain ⟨endpoint, now⟩ :=
        endpoints _ (planned.endpoint_bound inPlan inPath visits found)
      have nowFound := now.found
      simp only [(mem_of_getElem?_indexBy found).2] at nowFound
      exact ⟨endpoint, nowFound, now.fresh, now.reachable, now.ready⟩
    obtain ⟨nowSource, sourceFound, sourceFresh, sourceReachable,
      sourceReady⟩ := visited _ _ (.inl rfl) admissible.sourceFound
    obtain ⟨nowTarget, targetFound, targetFresh, targetReachable,
      targetReady⟩ := visited _ _ (.inr rfl) admissible.targetFound
    obtain ⟨nowLink, isCurrent⟩ :=
      links _ (planned.link_bound inPlan inPath admissible.linkFound)
    have linkFound := isCurrent.found
    simp only [(mem_of_getElem?_indexBy admissible.linkFound).2] at linkFound
    have known : current.linkMap[stage.link]? = some nowLink := linkFound
    simp [stageFailure, known, sourceFound, targetFound, isCurrent.healthy,
      isCurrent.belowHardLimit, sourceFresh, sourceReachable, sourceReady,
      targetFresh, targetReachable, targetReady]
  simp [pathFailure, revalidatePath, stages]

namespace Coordinator

variable
  {config : Config}
  {store : Option (List UInt8)}
  {trace past between future : List CoordinatorStep}
  {submission check : CoordinatorStep}
  {final : Coordinator}
  {request : CommunicationRequest}
  {plan : CommunicationPlan}

theorem stamped_of_run
    (run : ProcessRun config store trace final) :
    final.registry.Stamped := by
  have idle : ProcessRun config store [] (start store) := .nil
  have kept :
      final.registry.Fences ∧ DistinctIds final.registry.snap ∧
        final.registry.Stamped := by
    refine registry_invariant run
      (fun registry =>
        registry.Fences ∧ DistinctIds registry.snap ∧ registry.Stamped)
      ⟨fences_of_run idle, distinctIds_of_run idle, ?_⟩ ?_
    · simp [Registry.Stamped, start, initialSnapshot]
    · rintro registry event ⟨fences, distinct, stamped⟩
      exact ⟨fences.apply event, Registry.distinctIds_apply distinct _,
        Registry.stamped_apply fences distinct stamped event⟩
  exact kept.2.2

theorem mirrored_of_run
    (run : ProcessRun config store trace final) :
    final.registry.Mirrored :=
  registry_invariant run Registry.Mirrored
    (fun worker => by simp [start, initialSnapshot])
    fun _ _ mirrored => Registry.mirrored_apply mirrored _

/--
An endpoint that was last published under the bound generation and usable, by
the current incarnation of its worker, and was not withdrawn since.
-/
structure StillLive
    (history : List CoordinatorStep)
    (registry : Registry)
    (bound : EndpointId × EndpointGeneration)
    (endpoint : Endpoint) : Prop where
  published : latest? (publishedEndpoint? bound.1) history = some endpoint
  kept :
    ¬StandsIn (withdrawsEndpoint bound.1)
      (fun step => (publishedEndpoint? bound.1 step).isSome) history
  generation : endpoint.generation = bound.2
  reachable : endpoint.reachable = true
  ready : endpoint.ready = true
  current : registry.authorized endpoint.worker endpoint.workerBoot = true
  sourced : registry.SourceCurrent endpoint

/--
A link that was last published under the bound generation and healthy, was not
withdrawn since, and is not above its hard limit by what was last shown of it.
-/
structure StillUsable
    (history : List CoordinatorStep)
    (bound : LinkId × LinkGeneration)
    (link : Link) : Prop where
  published : latest? (publishedLink? bound.1) history = some link
  kept :
    ¬StandsIn (withdrawsLink bound.1)
      (fun step => (publishedLink? bound.1 step).isSome) history
  generation : link.generation = bound.2
  healthy : link.health.healthy = true
  belowHardLimit :
    ((latest? (congestionOf? bound.1) history).getD
      link.congestion).hardLimitExceeded = false

instance
    (history : List CoordinatorStep)
    (registry : Registry)
    (bound : EndpointId × EndpointGeneration) :
    Decidable (∃ endpoint, StillLive history registry bound endpoint) :=
  decidable_of_iff
    (¬StandsIn (withdrawsEndpoint bound.1)
        (fun step => (publishedEndpoint? bound.1 step).isSome) history ∧
      ∃ endpoint ∈ latest? (publishedEndpoint? bound.1) history,
        endpoint.generation = bound.2 ∧ endpoint.reachable = true ∧
          endpoint.ready = true ∧
          registry.authorized endpoint.worker endpoint.workerBoot = true ∧
          (endpoint.sourceBoot.isNull = true ∨
            endpoint.source.isNull = false ∧
              registry.authorized ⟨endpoint.source.value⟩
                ⟨endpoint.sourceBoot.value⟩ = true))
    ⟨fun ⟨kept, endpoint, published, generation, reachable, ready, current,
        sourced⟩ =>
      ⟨endpoint, published, kept, generation, reachable, ready, current,
        sourced⟩,
      fun ⟨endpoint, live⟩ =>
        ⟨live.kept, endpoint, live.published, live.generation, live.reachable,
          live.ready, live.current, live.sourced⟩⟩

instance
    (history : List CoordinatorStep)
    (bound : LinkId × LinkGeneration) :
    Decidable (∃ link, StillUsable history bound link) :=
  decidable_of_iff
    (¬StandsIn (withdrawsLink bound.1)
        (fun step => (publishedLink? bound.1 step).isSome) history ∧
      ∃ link ∈ latest? (publishedLink? bound.1) history,
        link.generation = bound.2 ∧ link.health.healthy = true ∧
          ((latest? (congestionOf? bound.1) history).getD
            link.congestion).hardLimitExceeded = false)
    ⟨fun ⟨kept, link, published, generation, healthy, belowHardLimit⟩ =>
      ⟨link, published, kept, generation, healthy, belowHardLimit⟩,
      fun ⟨link, usable⟩ =>
        ⟨usable.kept, link, usable.published, usable.generation,
          usable.healthy, usable.belowHardLimit⟩⟩

theorem exists_endpointCurrent_iff
    (run : ProcessRun config store trace final)
    {bound : EndpointId × EndpointGeneration} :
    (∃ endpoint, EndpointCurrent final.registry.snap bound endpoint) ↔
      ∃ endpoint, StillLive trace final.registry bound endpoint := by
  have shown := (maps_of_run run).1 bound.1
  have fresh :
      ∀ endpoint,
        final.registry.snap.endpointMap[bound.1]? = some endpoint →
        (endpointFresh endpoint final.registry.snap = true ↔
          final.registry.authorized endpoint.worker endpoint.workerBoot =
              true ∧
            final.registry.SourceCurrent endpoint) := by
    intro endpoint found
    obtain ⟨workerNamed, bootNamed⟩ :=
      stamped_of_run run endpoint (mem_of_getElem?_indexBy found).1
    exact Registry.endpointFresh_iff (fences_of_run run) (mirrored_of_run run)
      workerNamed bootNamed
  constructor
  · rintro ⟨endpoint, isCurrent⟩
    obtain ⟨authority, sourced⟩ :=
      (fresh endpoint isCurrent.found).mp isCurrent.fresh
    have isShown := isCurrent.found
    rw [shown] at isShown
    obtain ⟨published, isLatest, isEndpoint⟩ :=
      Option.map_eq_some_iff.mp isShown
    have reachable := isCurrent.reachable
    split_ifs at isEndpoint with withdrawn
    · rw [← isEndpoint] at reachable
      cases reachable
    · subst isEndpoint
      exact ⟨published, isLatest, fun stood => withdrawn (stands_iff.mpr stood),
        isCurrent.generation, reachable, isCurrent.ready, authority, sourced⟩
  · rintro ⟨endpoint, live⟩
    have found :
        final.registry.snap.endpointMap[bound.1]? = some endpoint := by
      rw [shown, endpointShown, live.published, Option.map_some,
        if_neg (fun stood => live.kept (stands_iff.mp stood))]
    exact ⟨endpoint, found, live.generation,
      (fresh endpoint found).mpr ⟨live.current, live.sourced⟩, live.reachable,
      live.ready⟩

theorem exists_linkCurrent_iff
    (run : ProcessRun config store trace final)
    {bound : LinkId × LinkGeneration} :
    (∃ link, LinkCurrent final.registry.snap bound link) ↔
      ∃ link, StillUsable trace bound link := by
  have shown := (maps_of_run run).2 bound.1
  constructor
  · rintro ⟨link, isCurrent⟩
    have isShown := isCurrent.found
    rw [shown, linkShown] at isShown
    split_ifs at isShown with withdrawn
    obtain ⟨published, isLatest, rfl⟩ := Option.map_eq_some_iff.mp isShown
    exact ⟨published, isLatest, fun stood => withdrawn (stands_iff.mpr stood),
      isCurrent.generation, isCurrent.healthy, isCurrent.belowHardLimit⟩
  · rintro ⟨link, usable⟩
    refine ⟨link.underLoad (latest? (congestionOf? bound.1) trace)
      (latest? (capacityOf? bound.1) trace), ?_, usable.generation,
      usable.healthy, usable.belowHardLimit⟩
    rw [shown, linkShown,
      if_neg (fun stood => usable.kept (stands_iff.mp stood)),
      usable.published, Option.map_some]

/-- What a plan of the process needs in order to pass. -/
structure StillPasses
    (history between : List CoordinatorStep)
    (registry : Registry)
    (plan : CommunicationPlan) : Prop where
  unreported : ∀ step ∈ between, reportsLoad step = false
  direct : plan.direct = true
  endpoints :
    ∀ bound ∈ plan.endpointGenerations,
      ∃ endpoint, StillLive history registry bound endpoint
  links :
    ∀ bound ∈ plan.linkGenerations,
      ∃ link, StillUsable history bound link

instance
    (history between : List CoordinatorStep)
    (registry : Registry)
    (plan : CommunicationPlan) :
    Decidable (StillPasses history between registry plan) :=
  decidable_of_iff
    ((∀ step ∈ between, reportsLoad step = false) ∧
      plan.direct = true ∧
      (∀ bound ∈ plan.endpointGenerations,
        ∃ endpoint, StillLive history registry bound endpoint) ∧
      ∀ bound ∈ plan.linkGenerations, ∃ link, StillUsable history bound link)
    ⟨fun ⟨unreported, direct, endpoints, links⟩ =>
      ⟨unreported, direct, endpoints, links⟩,
      fun passes =>
        ⟨passes.unreported, passes.direct, passes.endpoints, passes.links⟩⟩

theorem revalidates_iff_stillPasses
    (run :
      ProcessRun config store (past ++ submission :: between) final)
    (submitted : submits submission request plan)
    (short : (past ++ submission :: between).length + 1 < 2 ^ 64) :
    (revalidatePlan plan final.registry.snap).ok = true ↔
      StillPasses (past ++ submission :: between) between final.registry
        plan := by
  have unreported := generationFailure_eq_none_iff run submitted short
  have unknown := resourceCapacities_of_run run
  obtain ⟨_, stepped, _⟩ := run.cut
  have produced := (produced_of_submits submission stepped submitted).1
  have staging := produced.snapshotBound.staging
  constructor
  · intro passed
    obtain ⟨generation, endpoints, links, _, staged⟩ :=
      failures_eq_none_of_ok passed
    refine ⟨unreported.mp generation, staging.mp ?_, ?_, ?_⟩
    · refine List.eq_nil_iff_forall_not_mem.mpr fun resource member => ?_
      obtain ⟨⟨capacity, known⟩, _⟩ :=
        stagingFailure_eq_none_iff.mp (staged resource member)
      rw [unknown] at known
      cases known
    · intro bound member
      exact (exists_endpointCurrent_iff run).mp
        (boundEndpointFailure_eq_none_iff.mp (endpoints bound member))
    · intro bound member
      exact (exists_linkCurrent_iff run).mp
        (boundLinkFailure_eq_none_iff.mp (links bound member))
  · intro passes
    have endpoints :
        ∀ bound ∈ plan.endpointGenerations,
          ∃ endpoint, EndpointCurrent final.registry.snap bound endpoint :=
      fun bound member =>
        (exists_endpointCurrent_iff run).mpr (passes.endpoints bound member)
    have links :
        ∀ bound ∈ plan.linkGenerations,
          ∃ link, LinkCurrent final.registry.snap bound link :=
      fun bound member =>
        (exists_linkCurrent_iff run).mpr (passes.links bound member)
    refine ok_of_failures_eq_none (unreported.mpr passes.unreported) ?_ ?_ ?_
      ?_
    · intro bound member
      exact boundEndpointFailure_eq_none_iff.mpr (endpoints bound member)
    · intro bound member
      exact boundLinkFailure_eq_none_iff.mpr (links bound member)
    · intro path inPlan
      exact produced.planned.pathFailure_eq_none_of_current endpoints links
        inPlan
    · rw [staging.mpr passes.direct]
      simp

/--
Whatever happened between the planning of a plan and the check, `REVALIDATE` and
`EXECUTION_HANDOFF` of it succeed exactly when no load of any link was reported
in between, the plan needs no staging, and every endpoint and link that it is
bound to is, as last published, what it was bound to and still usable.
-/
theorem plan_passes_iff
    (run :
      ProcessRun config store
        (past ++ submission :: (between ++ check :: future)) final)
    (submitted : submits submission request plan)
    (short : (past ++ submission :: between).length + 1 < 2 ^ 64) :
    (AsksFor check .revalidate plan →
      (revalidationSucceeds check plan ↔
        StillPasses (past ++ submission :: between) between
          check.before.registry plan)) ∧
    (AsksFor check .executionHandoff plan →
      (handoffSucceeds check plan ↔
        StillPasses (past ++ submission :: between) between
          check.before.registry plan)) := by
  have whole :
      past ++ submission :: (between ++ check :: future) =
        (past ++ submission :: between) ++ check :: future := by
    simp
  rw [whole] at run
  obtain ⟨checkedRun, checkStepped, _⟩ := run.cut
  have verdict := revalidates_iff_stillPasses checkedRun submitted short
  constructor
  · intro asks
    exact (revalidationSucceeds_iff checkStepped asks).trans verdict
  · intro asks
    exact (handoffSucceeds_iff checkStepped asks).trans verdict

/--
A worker publishes its endpoint and its link again, and the plan over them still
passes.  Then somebody reports the congestion of a link that does not exist, and
it does not pass any more.
-/
theorem stray_report_ends_plan :
    ∃ plan past submission renewals first reports second,
      ProcessRun defaultConfig none
        (past ++ submission :: (renewals ++ first :: (reports ++ [second])))
        second.after ∧
      submits submission (directRequest ⟨5⟩) plan ∧
      revalidationSucceeds first plan ∧
      AsksFor second .revalidate plan ∧
      ¬revalidationSucceeds second plan := by
  have checked :
      (replay? (step? defaultConfig) (start none)
        (deployment ⟨4⟩ ⟨1⟩)).any
        (fun planning =>
          (step? defaultConfig planning.2
            (.receive ⟨4⟩
              (CoordinatorClient.submitRequest (directRequest ⟨5⟩)))).any
            fun submitted =>
              (replay? (step? defaultConfig) submitted.1
                (receiveAll ⟨4⟩
                  [ CoordinatorClient.publishEndpoint ⟨1⟩ ⟨1⟩
                      (mkEndpoint ⟨1⟩ ⟨1⟩ .cpuMemory .tcp),
                    CoordinatorClient.publishLink ⟨1⟩ ⟨1⟩
                      (mkLink ⟨7⟩ ⟨1⟩ ⟨1⟩ ⟨2⟩ .tcp 1000) ])).any
                fun renewed =>
                  (step? defaultConfig renewed.2
                    (.receive ⟨4⟩ (CoordinatorClient.revalidate ⟨1⟩))).any
                    fun passed =>
                      (replay? (step? defaultConfig) passed.1
                        [ .accept ⟨6⟩,
                          .receive ⟨6⟩
                            (CoordinatorClient.publishCongestion ⟨99⟩
                              {}) ]).any
                        fun reported =>
                          (step? defaultConfig reported.2
                            (.receive ⟨4⟩
                              (CoordinatorClient.revalidate ⟨1⟩))).isSome &&
                          planning.2.planState? ⟨1⟩ ≠
                            submitted.1.planState? ⟨1⟩ &&
                          (reported.1.any fun step => reportsLoad step) &&
                          decide (planning.1.length + renewed.1.length +
                            reported.1.length < 100) &&
                          submitted.1.ledger.plans[
                              (⟨1⟩ : CommunicationPlanId)]?.any
                            fun record =>
                              (renewed.2.ledger.plans[
                                  (⟨1⟩ : CommunicationPlanId)]?.any
                                fun kept => kept.plan = record.plan) &&
                              (reported.2.ledger.plans[
                                  (⟨1⟩ : CommunicationPlanId)]?.any
                                fun kept => kept.plan = record.plan) &&
                              decide (StillPasses
                                (planning.1 ++
                                  ⟨planning.2,
                                    .receive ⟨4⟩
                                      (CoordinatorClient.submitRequest
                                        (directRequest ⟨5⟩)),
                                    submitted.2, submitted.1⟩ ::
                                    renewed.1)
                                renewed.1 renewed.2.registry
                                record.plan)) = true := by
    decide +kernel
  obtain ⟨past, planning, pastRun, holds⟩ := exists_run_of_replay? checked
  obtain ⟨⟨submitted, replies⟩, submitStepped, holds⟩ :=
    (Option.any_eq_true _ _).mp holds
  obtain ⟨renewals, renewed, renewalRun, holds⟩ := exists_run_of_replay? holds
  obtain ⟨⟨passed, answers⟩, firstStepped, holds⟩ :=
    (Option.any_eq_true _ _).mp holds
  obtain ⟨reports, reported, reportRun, holds⟩ := exists_run_of_replay? holds
  simp only [Bool.and_eq_true, decide_eq_true_eq, List.any_eq_true]
    at holds
  obtain ⟨⟨⟨⟨asksAgain, changed⟩, report, reportMember, reportsIt⟩, few⟩,
    holds⟩ := holds
  obtain ⟨⟨ended, outputs⟩, secondStepped⟩ :=
    Option.isSome_iff_exists.mp asksAgain
  obtain ⟨record, entered, holds⟩ := (Option.any_eq_true _ _).mp holds
  simp only [Bool.and_eq_true, decide_eq_true_eq] at holds
  obtain ⟨⟨firstKept, secondKept⟩, passes⟩ := holds
  obtain ⟨firstRecord, firstFound, firstPlan⟩ :=
    (Option.any_eq_true _ _).mp firstKept
  obtain ⟨secondRecord, secondFound, secondPlan⟩ :=
    (Option.any_eq_true _ _).mp secondKept
  simp only [decide_eq_true_eq] at firstPlan secondPlan
  have run :=
    ((((pastRun.snoc submitStepped).append renewalRun).snoc
      firstStepped).append reportRun).snoc secondStepped
  simp only [List.append_assoc, List.cons_append, List.nil_append] at run
  have submits := submits_of_entered submitStepped rfl entered changed
  refine ⟨record.plan, past, _, renewals, _, reports, _, run, submits, ?_,
    ⟨⟨4⟩, _, secondRecord, rfl, rfl, secondFound, secondPlan⟩, ?_⟩
  · refine ((plan_passes_iff run submits ?_).1 ?_).mpr passes
    · simp only [List.length_append, List.length_cons]
      omega
    · exact ⟨⟨4⟩, _, firstRecord, rfl, rfl, firstFound, firstPlan⟩
  · intro succeeded
    have sameRun :
        ProcessRun defaultConfig none
          (past ++
            ⟨planning,
              .receive ⟨4⟩
                (CoordinatorClient.submitRequest (directRequest ⟨5⟩)),
              replies, submitted⟩ ::
              ((renewals ++
                ⟨renewed, .receive ⟨4⟩ (CoordinatorClient.revalidate ⟨1⟩),
                  answers, passed⟩ :: reports) ++
                ⟨reported, .receive ⟨4⟩ (CoordinatorClient.revalidate ⟨1⟩),
                  outputs, ended⟩ :: [])) ended := by
      simpa only [List.append_assoc, List.cons_append, List.nil_append]
        using run
    have still :=
      ((plan_passes_iff sameRun submits (by
        simp only [List.length_append, List.length_cons]
        omega)).1
        ⟨⟨4⟩, _, secondRecord, rfl, rfl, secondFound, secondPlan⟩).mp
        succeeded
    rw [still.unreported report (List.mem_append_right _
      (List.mem_cons_of_mem _ reportMember))] at reportsIt
    cases reportsIt

end Coordinator

end CommunicationPlanner
