import CommunicationPlanner.RegistryEffects

namespace CommunicationPlanner

open OrderedCollections TransitionRun

/-!
# Fenced incarnations

The boots that the snapshot trusts are those of the live workers, and a fenced
incarnation is never among them.  From this follows that an incarnation stays
out once it is fenced: it can neither register nor publish again, no plan is
made over its endpoints, and no plan over them passes revalidation.
-/

namespace Registry

/-- What holds between the workers, the trusted boots and the fenced set. -/
structure Fences (registry : Registry) : Prop where
  boots :
    ∀ (worker : WorkerId) (boot : WorkerBootId),
      registry.snap.workerBoots[worker]? = some boot ↔
        ∃ info : WorkerInfo,
          registry.workers[worker]? = some info ∧
          info.alive = true ∧ info.boot = boot
  untrusted :
    ∀ (worker : WorkerId) (boot : WorkerBootId),
      (worker, boot) ∈ registry.fenced →
      registry.snap.workerBoots[worker]? ≠ some boot
  identified :
    ∀ (worker : WorkerId) (info : WorkerInfo),
      registry.workers[worker]? = some info →
      worker.isNull = false ∧ info.boot.isNull = false
  fencedIdentified :
    ∀ worker boot,
      (worker, boot) ∈ registry.fenced →
      worker.isNull = false ∧ boot.isNull = false

namespace Fences

variable {registry : Registry}

private theorem enroll
    (fences : Fences registry)
    {socket : Socket}
    {worker : WorkerId}
    {boot : WorkerBootId}
    {name : Text}
    (admitted : registry.admits worker boot = true) :
    Fences (registry.enroll socket worker boot name) := by
  obtain ⟨workerNamed, bootNamed, unfenced⟩ := admits_iff.mp admitted
  refine ⟨?_, ?_, ?_, fences.fencedIdentified⟩
  · intro wanted wantedBoot
    rw [getElem?_workers_enroll, getElem?_workerBoots_enroll]
    split_ifs with same
    · simp
    · exact fences.boots wanted wantedBoot
  · intro wanted wantedBoot isFenced
    rw [getElem?_workerBoots_enroll]
    split_ifs with same
    · subst same
      intro isBoot
      cases isBoot
      exact unfenced isFenced
    · exact fences.untrusted wanted wantedBoot isFenced
  · intro wanted info found
    rw [getElem?_workers_enroll] at found
    split_ifs at found with same
    · subst same
      cases found
      exact ⟨workerNamed, bootNamed⟩
    · exact fences.identified wanted info found

/-- Listing what a worker published changes neither its boot nor its life. -/
private theorem list
    (fences : Fences registry)
    {listed : Registry}
    (sameBoots :
      listed.snap.workerBoots = registry.snap.workerBoots)
    (sameFenced : listed.fenced = registry.fenced)
    (sameLives :
      ∀ wanted : WorkerId,
        (listed.workers[wanted]?.map fun info => (info.alive, info.boot)) =
          registry.workers[wanted]?.map fun info =>
            (info.alive, info.boot)) :
    Fences listed := by
  have lives :
      ∀ (wanted : WorkerId) (alive : Bool) (boot : WorkerBootId),
        (∃ info : WorkerInfo,
          listed.workers[wanted]? = some info ∧
          info.alive = alive ∧ info.boot = boot) ↔
        ∃ info : WorkerInfo,
          registry.workers[wanted]? = some info ∧
          info.alive = alive ∧ info.boot = boot := by
    intro wanted alive boot
    have same := congrArg (fun life => life = some (alive, boot))
      (sameLives wanted)
    simpa [Option.map_eq_some_iff] using same
  refine ⟨?_, ?_, ?_, ?_⟩
  · intro wanted boot
    rw [sameBoots, fences.boots, lives]
  · intro wanted boot isFenced
    rw [sameBoots]
    rw [sameFenced] at isFenced
    exact fences.untrusted wanted boot isFenced
  · intro wanted info found
    obtain ⟨known, knownFound, _, sameBoot⟩ :=
      (lives wanted info.alive info.boot).mp ⟨info, found, rfl, rfl⟩
    rw [← sameBoot]
    exact fences.identified wanted known knownFound
  · intro wanted boot isFenced
    rw [sameFenced] at isFenced
    exact fences.fencedIdentified wanted boot isFenced

private theorem fenceWorker
    (fences : Fences registry)
    (worker : WorkerId) :
    Fences (registry.fenceWorker worker) := by
  refine ⟨?_, ?_, ?_, ?_⟩
  · intro wanted boot
    rw [getElem?_workers_fenceWorker, getElem?_workerBoots_fenceWorker]
    split_ifs with same
    · constructor
      · intro absent
        cases absent
      · rintro ⟨info, found, alive, _⟩
        obtain ⟨known, _, rfl⟩ := Option.map_eq_some_iff.mp found
        cases alive
    · exact fences.boots wanted boot
  · intro wanted boot isFenced
    rw [getElem?_workerBoots_fenceWorker]
    split_ifs with same
    · simp
    · rcases mem_fenced_fenceWorker.mp isFenced with
        wasFenced | ⟨info, _, isThis⟩
      · exact fences.untrusted wanted boot wasFenced
      · cases isThis
        exact (same rfl).elim
  · intro wanted info found
    rw [getElem?_workers_fenceWorker] at found
    split_ifs at found with same
    · obtain ⟨known, knownFound, rfl⟩ := Option.map_eq_some_iff.mp found
      exact fences.identified wanted known knownFound
    · exact fences.identified wanted info found
  · intro wanted boot isFenced
    rcases mem_fenced_fenceWorker.mp isFenced with
      wasFenced | ⟨info, found, isThis⟩
    · exact fences.fencedIdentified wanted boot wasFenced
    · cases isThis
      exact fences.identified worker info found

/-- Every effect of an event keeps the fences. -/
theorem apply
    (fences : Fences registry)
    (event : Event) :
    Fences (registry.apply (registry.effect event)) := by
  have caused := registry.effectOf event
  generalize registry.effect event = effect at caused ⊢
  cases caused with
  | nothing => exact fences
  | enrolled socket message kind admitted =>
      exact fences.enroll admitted
  | endpointPublished socket message kind authority =>
      refine fences.list rfl rfl ?_
      intro wanted
      simp only [Registry.apply, getElem?_listEndpoint]
      split <;> simp [Function.comp_def]
  | linkPublished socket message kind authority =>
      refine fences.list rfl rfl ?_
      intro wanted
      simp only [Registry.apply, getElem?_listLink]
      split <;> simp [Function.comp_def]
  | capacityPublished socket message kind =>
      exact fences.list rfl rfl fun _ => rfl
  | congestionPublished socket message kind =>
      exact fences.list rfl rfl fun _ => rfl
  | disconnected socket worker registered =>
      exact (fences.fenceWorker worker).list rfl rfl fun _ => rfl

/-- No evidence of a fenced incarnation is fresh. -/
theorem stale
    (fences : Fences registry)
    {endpoint : Endpoint}
    (isFenced : (endpoint.worker, endpoint.workerBoot) ∈ registry.fenced) :
    endpointFresh endpoint registry.snap = false := by
  have named := (fences.fencedIdentified _ _ isFenced).2
  have untrusted := fences.untrusted _ _ isFenced
  simp [endpointFresh, named, untrusted]

/-- A fenced incarnation has no authority to publish. -/
theorem unauthorized
    (fences : Fences registry)
    {worker : WorkerId}
    {boot : WorkerBootId}
    (isFenced : (worker, boot) ∈ registry.fenced) :
    registry.authorized worker boot = false := by
  by_contra authority
  rw [Bool.not_eq_false] at authority
  have trusted := (fences.boots worker boot).mpr (authorized_iff.mp authority)
  exact fences.untrusted worker boot isFenced trusted

end Fences

/-- The incarnation is fenced, or its worker is registered under another boot. -/
def Retired
    (registry : Registry)
    (worker : WorkerId)
    (boot : WorkerBootId) : Prop :=
  (worker, boot) ∈ registry.fenced ∨
    ∃ info : WorkerInfo,
      registry.workers[worker]? = some info ∧ info.boot ≠ boot

/-- A retired incarnation has a name, and no authority. -/
theorem Fences.unauthorized_of_retired
    {registry : Registry}
    (fences : Fences registry)
    {worker : WorkerId}
    {boot : WorkerBootId}
    (retired : registry.Retired worker boot) :
    worker.isNull = false ∧ registry.authorized worker boot = false := by
  rcases retired with isFenced | ⟨info, known, replaced⟩
  · exact ⟨(fences.fencedIdentified _ _ isFenced).1,
      fences.unauthorized isFenced⟩
  · refine ⟨(fences.identified worker info known).1, ?_⟩
    simp [authorized, known, replaced]

/-- Nothing is ever taken out of the fenced set. -/
theorem fenced_subset_apply
    (registry : Registry)
    (effect : RegistryEffect) :
    registry.fenced ⊆ (registry.apply effect).fenced := by
  cases effect with
  | disconnected socket worker =>
      intro incarnation isFenced
      exact mem_fenced_fenceWorker.mpr (.inl isFenced)
  | nothing | enrolled | endpointPublished | linkPublished
  | capacityPublished | congestionPublished => exact subset_rfl

end Registry

/-- The message claims the authority of the incarnation. -/
def Message.claims
    (message : Message)
    (worker : WorkerId)
    (boot : WorkerBootId) : Prop :=
  (message.type = .register ∨ message.type = .publishEndpoint ∨
    message.type = .publishLink) ∧
  message.worker = worker ∧ message.boot = boot

/-- The plan sends over the endpoint or has it as a participant. -/
def CommunicationPlan.visits
    (plan : CommunicationPlan)
    (id : EndpointId) : Prop :=
  (∃ path ∈ plan.candidatePaths, ∃ stage ∈ path.stages,
    stage.source = id ∨ stage.destination = id) ∨
  (∃ stage ∈ plan.orderedStages,
    stage.source = id ∨ stage.destination = id) ∨
  id ∈ plan.collectiveParticipants

/-- Every endpoint of a planned path was found fresh. -/
theorem Planned.fresh_of_stage
    {request : CommunicationRequest}
    {snapshot : EvidenceSnapshot}
    {weights : RankingWeights}
    {bounds : Bounds}
    {plan : CommunicationPlan}
    (planned : Planned request snapshot weights bounds plan)
    {path : Path}
    (inPlan : path ∈ plan.candidatePaths)
    {stage : Stage}
    (inPath : stage ∈ path.stages)
    {id : EndpointId}
    (visited : stage.source = id ∨ stage.destination = id) :
    ∃ endpoint,
      snapshot.endpointMap[id]? = some endpoint ∧
      endpointFresh endpoint snapshot = true := by
  obtain ⟨link, from_, target, hop⟩ := planned.hop_admissible inPlan inPath
  rcases visited with rfl | rfl
  · exact ⟨from_, hop.sourceFound, hop.sourceAdmissible.fresh⟩
  · exact ⟨target, hop.targetFound, hop.targetAdmissible.fresh⟩

/-- Every endpoint that a planned plan visits was found fresh. -/
theorem Planned.fresh_of_visits
    {request : CommunicationRequest}
    {snapshot : EvidenceSnapshot}
    {weights : RankingWeights}
    {bounds : Bounds}
    {plan : CommunicationPlan}
    (planned : Planned request snapshot weights bounds plan)
    {id : EndpointId}
    (visited : plan.visits id) :
    ∃ endpoint,
      snapshot.endpointMap[id]? = some endpoint ∧
      endpointFresh endpoint snapshot = true := by
  rcases visited with ⟨path, inPlan, stage, inPath, visited⟩ |
    ⟨stage, ordered, visited⟩ | participant
  · exact planned.fresh_of_stage inPlan inPath visited
  · rw [planned.stages] at ordered
    cases first : plan.candidatePaths.head? with
    | none =>
        rw [first] at ordered
        cases ordered
    | some path =>
        rw [first] at ordered
        exact planned.fresh_of_stage (List.mem_of_mem_head? first) ordered
          visited
  · exact planned.participants id participant

namespace Coordinator

variable
  {config : Config}
  {store : Option (List UInt8)}
  {past later : List CoordinatorStep}
  {middle final : Coordinator}
  {worker : WorkerId}
  {boot : WorkerBootId}

theorem fences_of_run
    (run : ProcessRun config store past middle) :
    middle.registry.Fences := by
  refine registry_invariant run Registry.Fences ?_ fun _ event fences =>
    fences.apply event
  exact
    { boots := by simp [start, initialSnapshot]
      untrusted := by simp [start]
      identified := by simp [start]
      fencedIdentified := by simp [start] }

/-- An incarnation that was fenced stays fenced. -/
theorem fenced_of_run
    (continued : Run (step? config) middle later final)
    (isFenced : (worker, boot) ∈ middle.registry.fenced) :
    (worker, boot) ∈ final.registry.fenced := by
  refine continued.invariant
    (fun state => (worker, boot) ∈ state.registry.fenced) isFenced ?_
  intro step _ stepped wasFenced
  rw [registry_of_step? stepped, Registry.next_eq_apply]
  exact Registry.fenced_subset_apply _ _ wasFenced

/-- Whoever claims a fenced incarnation is answered with an error. -/
theorem refused_of_claims
    (step : CoordinatorStep)
    (stepped :
      step? config step.before step.event = some (step.after, step.outputs))
    (fences : step.before.registry.Fences)
    (isFenced : (worker, boot) ∈ step.before.registry.fenced)
    {socket : Socket}
    {message : Message}
    (received : step.event = .receive socket message)
    (claimed : message.claims worker boot) :
    step.after.registry = step.before.registry ∧
    ∃ detail, step.outputs = [.send socket (errorMessage detail)] := by
  obtain ⟨kind, rfl, rfl⟩ := claimed
  obtain ⟨workerNamed, bootNamed⟩ := fences.fencedIdentified _ _ isFenced
  have refused := fences.unauthorized isFenced
  have notAdmitted :
      step.before.registry.admits message.worker message.boot = false := by
    simp [Registry.admits, isFenced]
  constructor
  · rw [registry_of_step? stepped, Registry.next_eq_apply, received]
    rcases kind with kind | kind | kind <;>
      simp [Registry.effect, kind, refused, notAdmitted, Registry.apply]
  · rw [received] at stepped
    rw [outputs_of_receive stepped]
    rcases kind with kind | kind | kind
    · refine ⟨ascii "fenced boot authority", ?_⟩
      simp [handleMessage, kind, withRegistry, Registry.handleRegister,
        workerNamed, bootNamed, isFenced]
    · refine ⟨ascii "stale publisher authority", ?_⟩
      simp only [handleMessage, kind, withRegistry,
        Registry.handlePublishEndpoint_of_unauthorized refused]
      rfl
    · refine ⟨ascii "stale publisher authority", ?_⟩
      simp only [handleMessage, kind, withRegistry,
        Registry.handlePublishLink_of_unauthorized refused]
      rfl

/--
The trusted boots are those of the live workers and none of them is fenced.
Hence a fenced incarnation stays out for the rest of the run: it can neither
register nor publish, no plan is made over its endpoints, and no plan bound to
them passes revalidation.
-/
theorem fenced_incarnation_stays_out
    (reached : ProcessRun config store past middle) :
    (∀ (worker : WorkerId) (boot : WorkerBootId),
      (middle.registry.snap.workerBoots[worker]? = some boot ↔
        ∃ info : WorkerInfo,
          middle.registry.workers[worker]? = some info ∧
          info.alive = true ∧ info.boot = boot) ∧
      ((worker, boot) ∈ middle.registry.fenced →
        middle.registry.snap.workerBoots[worker]? ≠ some boot)) ∧
    ∀ (worker : WorkerId) (boot : WorkerBootId)
        (later : List CoordinatorStep) (final : Coordinator),
      (worker, boot) ∈ middle.registry.fenced →
      Run (step? config) middle later final →
      (∀ step ∈ later, ∀ socket message,
        step.event = .receive socket message →
        message.claims worker boot →
        step.after.registry = step.before.registry ∧
        ∃ detail, step.outputs = [.send socket (errorMessage detail)]) ∧
      (∀ step ∈ later, ∀ request plan,
        submits step request plan →
        ∀ endpoint ∈ step.before.registry.snap.endpoints,
          plan.visits endpoint.id →
          ¬(endpoint.worker = worker ∧ endpoint.workerBoot = boot)) ∧
      ∀ (plan : CommunicationPlan),
        ∀ endpoint ∈ final.registry.snap.endpoints,
          (∃ bound ∈ plan.endpointGenerations, bound.1 = endpoint.id) →
          endpoint.worker = worker →
          endpoint.workerBoot = boot →
          (revalidatePlan plan final.registry.snap).ok = false := by
  refine ⟨?_, ?_⟩
  · have fences := fences_of_run reached
    intro worker boot
    exact ⟨fences.boots worker boot, fences.untrusted worker boot⟩
  · intro worker boot later final isFenced continued
    have before :
        ∀ step ∈ later,
          step? config step.before step.event =
              some (step.after, step.outputs) ∧
            ∃ trace, ProcessRun config store trace step.before ∧
              (worker, boot) ∈ step.before.registry.fenced := by
      intro step member
      obtain ⟨leading, trailing, rfl⟩ := List.append_of_mem member
      obtain ⟨leadingRun, stepped, _⟩ := continued.cut
      exact ⟨stepped, _, reached.append leadingRun,
        fenced_of_run leadingRun isFenced⟩
    refine ⟨?_, ?_, ?_⟩
    · intro step member socket message received claimed
      obtain ⟨stepped, trace, run, fencedBefore⟩ := before step member
      exact refused_of_claims step stepped (fences_of_run run) fencedBefore
        received claimed
    · rintro step member request plan submitted endpoint inSnapshot visited
        ⟨rfl, rfl⟩
      obtain ⟨stepped, trace, run, fencedBefore⟩ := before step member
      have planned := (produced_of_submits step stepped submitted).1.planned
      obtain ⟨found, lookup, fresh⟩ := planned.fresh_of_visits visited
      have same := getElem?_indexBy_of_mem (distinctIds_of_run run).endpoints
        inSnapshot
      rw [EvidenceSnapshot.endpointMap, same] at lookup
      cases lookup
      rw [(fences_of_run run).stale fencedBefore] at fresh
      cases fresh
    · rintro plan endpoint inSnapshot ⟨bound, isBound, sameId⟩ rfl rfl
      have run := reached.append continued
      by_contra passed
      rw [Bool.not_eq_false] at passed
      obtain ⟨found, current⟩ := (revalidated_of_ok passed).endpoints bound
        isBound
      have same := getElem?_indexBy_of_mem (distinctIds_of_run run).endpoints
        inSnapshot
      have lookup := current.found
      rw [sameId, EvidenceSnapshot.endpointMap, same] at lookup
      cases lookup
      have stale := (fences_of_run run).stale
        (fenced_of_run continued isFenced)
      rw [current.fresh] at stale
      cases stale

/-- The worker is fenced, and its replayed registration is refused. -/
theorem replayed_registration_is_refused :
    ∃ past middle outputs after,
      ProcessRun defaultConfig none past middle ∧
      (⟨1⟩, ⟨1⟩) ∈ middle.registry.fenced ∧
      step? defaultConfig middle
          (.receive ⟨5⟩ (CoordinatorClient.registerWorker ⟨1⟩ ⟨1⟩ [])) =
        some (after, outputs) ∧
      after.registry = middle.registry ∧
      ∃ detail, outputs = [.send ⟨5⟩ (errorMessage detail)] := by
  have checked :
      (replay? (step? defaultConfig) (start none)
        (deployment ⟨4⟩ ⟨1⟩ ++ [.disconnect ⟨4⟩, .accept ⟨5⟩])).any
        (fun reached =>
          (⟨1⟩, ⟨1⟩) ∈ reached.2.registry.fenced &&
            (step? defaultConfig reached.2
              (.receive ⟨5⟩
                (CoordinatorClient.registerWorker ⟨1⟩ ⟨1⟩ []))).isSome) =
        true := by
    decide +kernel
  obtain ⟨past, middle, reached, holds⟩ := exists_run_of_replay? checked
  rw [Bool.and_eq_true, decide_eq_true_eq] at holds
  obtain ⟨⟨after, outputs⟩, stepped⟩ :=
    Option.isSome_iff_exists.mp holds.2
  have refused := ((fenced_incarnation_stays_out reached).2 ⟨1⟩ ⟨1⟩ _ _
    holds.1 (Run.nil.snoc stepped)).1 _ (List.mem_singleton.mpr rfl) ⟨5⟩ _
      rfl ⟨.inl rfl, rfl, rfl⟩
  exact ⟨past, middle, outputs, after, reached, holds.1, stepped, refused⟩

end Coordinator

end CommunicationPlanner
