import CommunicationPlanner.ProcessObservations
import CommunicationPlanner.PlannerDeterminism

namespace CommunicationPlanner

open OrderedCollections TransitionRun

/-!
# How the registry changes

Of all events only accepted registrations, accepted publications and the ends
of registered connections change the registry.  `effect` says which of these an
event is, and `next_eq_apply` that nothing else happens, so that an invariant of
the registry has one case for every kind of effect.
-/

/-- What an event does to the registry. -/
inductive RegistryEffect where
  | nothing
  | enrolled
      (socket : Socket)
      (worker : WorkerId)
      (boot : WorkerBootId)
      (name : Text)
  | endpointPublished (worker : WorkerId) (endpoint : Endpoint)
  | linkPublished (worker : WorkerId) (link : Link)
  | capacityPublished (link : LinkId) (capacity : Capacity)
  | congestionPublished (link : LinkId) (congestion : Congestion)
  | disconnected (socket : Socket) (worker : WorkerId)

namespace Registry

/-- What an event does to the registry, as its handler decides. -/
def effect (registry : Registry) : Event → RegistryEffect
  | .receive socket message =>
      match message.type with
      | .register =>
          if registry.admits message.worker message.boot then
            .enrolled socket message.worker message.boot message.name
          else
            .nothing
      | .publishEndpoint =>
          if registry.authorized message.worker message.boot then
            .endpointPublished message.worker
              { message.endpoint with
                worker := message.worker
                workerBoot := message.boot }
          else
            .nothing
      | .publishLink =>
          if registry.authorized message.worker message.boot then
            .linkPublished message.worker
              { message.link with workerBoot := message.boot }
          else
            .nothing
      | .publishCapacity =>
          if message.worker.isNull ||
              registry.authorized message.worker message.boot then
            .capacityPublished message.linkId message.capacity
          else
            .nothing
      | .publishCongestion =>
          if message.worker.isNull ||
              registry.authorized message.worker message.boot then
            .congestionPublished message.linkId message.congestion
          else
            .nothing
      | _ => .nothing
  | .disconnect socket =>
      match registry.socketToWorker[socket]? with
      | none => .nothing
      | some worker => .disconnected socket worker
  | _ => .nothing

/-- List an endpoint under its publisher. -/
def listEndpoint
    (workers : Map WorkerId WorkerInfo)
    (worker : WorkerId)
    (id : EndpointId) : Map WorkerId WorkerInfo :=
  match workers[worker]? with
  | none => workers
  | some info =>
      workers.insert worker
        { info with endpoints := info.endpoints ++ [id] }

/-- List a link under its publisher. -/
def listLink
    (workers : Map WorkerId WorkerInfo)
    (worker : WorkerId)
    (id : LinkId) : Map WorkerId WorkerInfo :=
  match workers[worker]? with
  | none => workers
  | some info =>
      workers.insert worker { info with links := info.links ++ [id] }

/-- Carry out an effect. -/
def apply (registry : Registry) : RegistryEffect → Registry
  | .nothing => registry
  | .enrolled socket worker boot name =>
      registry.enroll socket worker boot name
  | .endpointPublished worker endpoint =>
      { registry with
        snap := publishEndpoint registry.snap endpoint
        workers := listEndpoint registry.workers worker endpoint.id }
  | .linkPublished worker link =>
      { registry with
        snap := publishLink registry.snap link
        workers := listLink registry.workers worker link.id }
  | .capacityPublished link capacity =>
      { registry with
        snap :=
          { registry.snap with
            capacityGeneration := registry.snap.capacityGeneration.next
            links :=
              updateLinks registry.snap.links link fun known =>
                { known with capacityEvidence := capacity } } }
  | .congestionPublished link congestion =>
      { registry with
        snap :=
          { registry.snap with
            congestionGeneration := registry.snap.congestionGeneration.next
            links :=
              updateLinks registry.snap.links link fun known =>
                { known with congestion := congestion } } }
  | .disconnected socket worker =>
      { registry.fenceWorker worker with
        socketToWorker := registry.socketToWorker.erase socket }

/-- The authority of a publisher, as the worker's record shows it. -/
theorem authorized_iff
    {registry : Registry}
    {worker : WorkerId}
    {boot : WorkerBootId} :
    registry.authorized worker boot = true ↔
      ∃ info,
        registry.workers[worker]? = some info ∧
        info.alive = true ∧ info.boot = boot := by
  unfold authorized
  split
  · rename_i missing
    simp [missing]
  · rename_i info found
    simp [found]

/-- What a `REGISTER` has to be for its handler to enroll it. -/
theorem admits_iff
    {registry : Registry}
    {worker : WorkerId}
    {boot : WorkerBootId} :
    registry.admits worker boot = true ↔
      worker.isNull = false ∧ boot.isNull = false ∧
        (worker, boot) ∉ registry.fenced := by
  simp [admits, and_assoc]

/-- The handler of `REGISTER` carries out its effect. -/
private theorem handleRegister_eq_apply
    (registry : Registry)
    (socket : Socket)
    (message : Message)
    (kind : message.type = .register) :
    (registry.handleRegister socket message).1 =
      registry.apply (registry.effect (.receive socket message)) := by
  by_cases admitted : registry.admits message.worker message.boot = true
  · obtain ⟨worker, boot, unfenced⟩ := admits_iff.mp admitted
    simp [handleRegister, effect, kind, admitted, worker, boot, unfenced,
      apply]
  · have refused :
        (message.worker.isNull || message.boot.isNull) = true ∨
          (message.worker, message.boot) ∈ registry.fenced := by
      by_contra accepted
      simp only [not_or, Bool.or_eq_true, Bool.not_eq_true] at accepted
      exact admitted
        (admits_iff.mpr ⟨accepted.1.1, accepted.1.2, accepted.2⟩)
    simp only [handleRegister, effect, kind, admitted, Bool.false_eq_true,
      if_false]
    split_ifs with isNull isFenced
    · rfl
    · rfl
    · exact (refused.elim isNull isFenced).elim

/-- A worker without authority is gone or back under another boot. -/
theorem stale_of_unauthorized
    {registry : Registry}
    {worker : WorkerId}
    {boot : WorkerBootId}
    {info : WorkerInfo}
    (found : registry.workers[worker]? = some info)
    (refused : registry.authorized worker boot = false) :
    (!info.alive || info.boot ≠ boot) = true := by
  have stale : info.alive = true → ¬info.boot = boot := by
    simpa [authorized, found] using refused
  cases alive : info.alive with
  | true => simp [stale alive]
  | false => rfl

/-- Without authority nothing is published. -/
theorem handlePublishEndpoint_of_unauthorized
    {registry : Registry}
    {message : Message}
    (refused :
      registry.authorized message.worker message.boot = false) :
    registry.handlePublishEndpoint message = (registry, stalePublisher) := by
  unfold handlePublishEndpoint
  cases found : registry.workers[message.worker]? with
  | none => rfl
  | some info =>
      simp only [stale_of_unauthorized found refused, if_true]

/-- The handler of `PUBLISH_ENDPOINT` carries out its effect. -/
private theorem handlePublishEndpoint_eq_apply
    (registry : Registry)
    (socket : Socket)
    (message : Message)
    (kind : message.type = .publishEndpoint) :
    (registry.handlePublishEndpoint message).1 =
      registry.apply (registry.effect (.receive socket message)) := by
  by_cases authority :
      registry.authorized message.worker message.boot = true
  · obtain ⟨info, found, alive, sameBoot⟩ := authorized_iff.mp authority
    simp [handlePublishEndpoint, effect, kind, found, alive, sameBoot,
      authority, apply, listEndpoint]
  · rw [Bool.not_eq_true] at authority
    simp [handlePublishEndpoint_of_unauthorized authority, effect, kind,
      authority, apply]

/-- Without authority nothing is published. -/
theorem handlePublishLink_of_unauthorized
    {registry : Registry}
    {message : Message}
    (refused :
      registry.authorized message.worker message.boot = false) :
    registry.handlePublishLink message = (registry, stalePublisher) := by
  unfold handlePublishLink
  cases found : registry.workers[message.worker]? with
  | none => rfl
  | some info =>
      simp only [stale_of_unauthorized found refused, if_true]

/-- The handler of `PUBLISH_LINK` carries out its effect. -/
private theorem handlePublishLink_eq_apply
    (registry : Registry)
    (socket : Socket)
    (message : Message)
    (kind : message.type = .publishLink) :
    (registry.handlePublishLink message).1 =
      registry.apply (registry.effect (.receive socket message)) := by
  by_cases authority :
      registry.authorized message.worker message.boot = true
  · obtain ⟨info, found, alive, sameBoot⟩ := authorized_iff.mp authority
    simp [handlePublishLink, effect, kind, found, alive, sameBoot,
      authority, apply, listLink]
  · rw [Bool.not_eq_true] at authority
    simp [handlePublishLink_of_unauthorized authority, effect, kind,
      authority, apply]

/-- Nothing else changes the registry. -/
theorem next_eq_apply
    (registry : Registry)
    (event : Event) :
    registry.next event = registry.apply (registry.effect event) := by
  cases event with
  | receive socket message =>
      simp only [next, receive]
      cases kind : message.type with
      | register => exact handleRegister_eq_apply registry socket message kind
      | publishEndpoint =>
          exact handlePublishEndpoint_eq_apply registry socket message kind
      | publishLink =>
          exact handlePublishLink_eq_apply registry socket message kind
      | publishCapacity =>
          simp only [handlePublishCapacity, effect, kind]
          split_ifs <;> simp_all [apply]
      | publishCongestion =>
          simp only [handlePublishCongestion, effect, kind]
          split_ifs <;> simp_all [apply]
      | _ => simp [effect, kind, apply]
  | disconnect socket =>
      simp only [next, disconnect, effect]
      cases registry.socketToWorker[socket]? <;> rfl
  | accept | undecodable | acquire | finish | saveStore => rfl

/-! ## Which event has which effect -/

/-- The effects an event can have, with the guards under which it has them. -/
inductive EffectOf
    (registry : Registry) :
    Event → RegistryEffect → Prop where
  | nothing
      (event : Event) :
      EffectOf registry event .nothing
  | enrolled
      (socket : Socket)
      (message : Message)
      (kind : message.type = .register)
      (admitted : registry.admits message.worker message.boot = true) :
      EffectOf registry (.receive socket message)
        (.enrolled socket message.worker message.boot message.name)
  | endpointPublished
      (socket : Socket)
      (message : Message)
      (kind : message.type = .publishEndpoint)
      (authority :
        registry.authorized message.worker message.boot = true) :
      EffectOf registry (.receive socket message)
        (.endpointPublished message.worker
          { message.endpoint with
            worker := message.worker
            workerBoot := message.boot })
  | linkPublished
      (socket : Socket)
      (message : Message)
      (kind : message.type = .publishLink)
      (authority :
        registry.authorized message.worker message.boot = true) :
      EffectOf registry (.receive socket message)
        (.linkPublished message.worker
          { message.link with workerBoot := message.boot })
  | capacityPublished
      (socket : Socket)
      (message : Message)
      (kind : message.type = .publishCapacity) :
      EffectOf registry (.receive socket message)
        (.capacityPublished message.linkId message.capacity)
  | congestionPublished
      (socket : Socket)
      (message : Message)
      (kind : message.type = .publishCongestion) :
      EffectOf registry (.receive socket message)
        (.congestionPublished message.linkId message.congestion)
  | disconnected
      (socket : Socket)
      (worker : WorkerId)
      (registered : registry.socketToWorker[socket]? = some worker) :
      EffectOf registry (.disconnect socket) (.disconnected socket worker)

/-- Every effect has passed the guards of its handler. -/
theorem effectOf
    (registry : Registry)
    (event : Event) :
    EffectOf registry event (registry.effect event) := by
  cases event with
  | receive socket message =>
      simp only [effect]
      cases kind : message.type with
      | register =>
          simp only
          split_ifs with admitted
          · exact .enrolled socket message kind admitted
          · exact .nothing _
      | publishEndpoint =>
          simp only
          split_ifs with authority
          · exact .endpointPublished socket message kind authority
          · exact .nothing _
      | publishLink =>
          simp only
          split_ifs with authority
          · exact .linkPublished socket message kind authority
          · exact .nothing _
      | publishCapacity =>
          simp only
          split_ifs
          · exact .capacityPublished socket message kind
          · exact .nothing _
      | publishCongestion =>
          simp only
          split_ifs
          · exact .congestionPublished socket message kind
          · exact .nothing _
      | _ => exact .nothing _
  | disconnect socket =>
      simp only [effect]
      cases registered : registry.socketToWorker[socket]? with
      | none => exact .nothing _
      | some worker => exact .disconnected socket worker registered
  | accept | undecodable | acquire | finish | saveStore => exact .nothing _

/-! ## Reading the maps after an effect -/

/-- A change of what is known of a worker, if anything is. -/
private theorem getElem?_changed
    (workers : Map WorkerId WorkerInfo)
    (worker wanted : WorkerId)
    (change : WorkerInfo → WorkerInfo) :
    (match workers[worker]? with
      | none => workers
      | some info => workers.insert worker (change info))[wanted]? =
      if worker = wanted then
        workers[wanted]?.map change
      else
        workers[wanted]? := by
  cases found : workers[worker]? with
  | none =>
      split_ifs with same
      · subst same
        simp [found]
      · rfl
  | some info =>
      simp only [Std.ExtTreeMap.getElem?_insert,
        Std.LawfulEqCmp.compare_eq_iff_eq]
      split_ifs with same
      · subst same
        simp [found]
      · rfl

/-- An endpoint is listed by one worker. -/
theorem getElem?_listEndpoint
    (workers : Map WorkerId WorkerInfo)
    (worker wanted : WorkerId)
    (id : EndpointId) :
    (listEndpoint workers worker id)[wanted]? =
      if worker = wanted then
        workers[wanted]?.map fun info =>
          { info with endpoints := info.endpoints ++ [id] }
      else
        workers[wanted]? :=
  getElem?_changed workers worker wanted _

/-- A link is listed by one worker. -/
theorem getElem?_listLink
    (workers : Map WorkerId WorkerInfo)
    (worker wanted : WorkerId)
    (id : LinkId) :
    (listLink workers worker id)[wanted]? =
      if worker = wanted then
        workers[wanted]?.map fun info =>
          { info with links := info.links ++ [id] }
      else
        workers[wanted]? :=
  getElem?_changed workers worker wanted _

/-- A registration makes one worker anew. -/
theorem getElem?_workers_enroll
    (registry : Registry)
    (socket : Socket)
    (worker wanted : WorkerId)
    (boot : WorkerBootId)
    (name : Text) :
    (registry.enroll socket worker boot name).workers[wanted]? =
      if worker = wanted then
        some { id := worker, boot := boot, name := name, sock := socket }
      else
        registry.workers[wanted]? := by
  simp only [enroll, Std.ExtTreeMap.getElem?_insert,
    Std.LawfulEqCmp.compare_eq_iff_eq]

/-- A registration makes one boot current. -/
theorem getElem?_workerBoots_enroll
    (registry : Registry)
    (socket : Socket)
    (worker wanted : WorkerId)
    (boot : WorkerBootId)
    (name : Text) :
    (registry.enroll socket worker boot name).snap.workerBoots[wanted]? =
      if worker = wanted then
        some boot
      else
        registry.snap.workerBoots[wanted]? := by
  simp only [enroll, Std.ExtTreeMap.getElem?_insert,
    Std.LawfulEqCmp.compare_eq_iff_eq]

/-- A fence ends the life of one worker. -/
theorem getElem?_workers_fenceWorker
    (registry : Registry)
    (worker wanted : WorkerId) :
    (registry.fenceWorker worker).workers[wanted]? =
      if worker = wanted then
        registry.workers[wanted]?.map fun info =>
          { info with alive := false }
      else
        registry.workers[wanted]? := by
  unfold fenceWorker
  cases found : registry.workers[worker]? with
  | none =>
      split_ifs with same
      · subst same
        simp [found]
      · rfl
  | some info =>
      simp only [Std.ExtTreeMap.getElem?_insert,
        Std.LawfulEqCmp.compare_eq_iff_eq]
      split_ifs with same
      · subst same
        simp [found]
      · rfl

/-- A fence forgets the boot of one worker. -/
theorem getElem?_workerBoots_fenceWorker
    (registry : Registry)
    (worker wanted : WorkerId) :
    (registry.fenceWorker worker).snap.workerBoots[wanted]? =
      if worker = wanted then
        none
      else
        registry.snap.workerBoots[wanted]? := by
  have erased :
      (registry.fenceWorker worker).snap.workerBoots =
        registry.snap.workerBoots.erase worker := by
    unfold fenceWorker
    split <;> rfl
  rw [erased, Std.ExtTreeMap.getElem?_erase]
  simp only [Std.LawfulEqCmp.compare_eq_iff_eq]

/-- A fence adds the worker's incarnation to the fenced ones. -/
theorem mem_fenced_fenceWorker
    {registry : Registry}
    {worker : WorkerId}
    {incarnation : WorkerId × WorkerBootId} :
    incarnation ∈ (registry.fenceWorker worker).fenced ↔
      incarnation ∈ registry.fenced ∨
      ∃ info,
        registry.workers[worker]? = some info ∧
        incarnation = (worker, info.boot) := by
  unfold fenceWorker
  cases registry.workers[worker]? with
  | none => simp
  | some info =>
      simp only [Finset.mem_insert, Option.some.injEq, exists_eq_left']
      exact or_comm

/-! ## Distinct identities -/

private theorem map_id_updateLinks
    (links : List Link)
    (id : LinkId)
    {update : Link → Link}
    (keeps : ∀ link, (update link).id = link.id) :
    (updateLinks links id update).map (fun link => link.id) =
      links.map fun link => link.id := by
  simp only [updateLinks, List.map_map]
  refine List.map_congr_left ?_
  intro link _
  simp only [Function.comp_apply]
  split <;> simp [keeps]

private theorem distinctIds_withdraw
    {snapshot : EvidenceSnapshot}
    (distinct : DistinctIds snapshot)
    (info : WorkerInfo) :
    DistinctIds (withdraw snapshot info) := by
  refine ⟨?_, ?_⟩
  · have sameIds :
        (withdraw snapshot info).endpoints.map (fun endpoint => endpoint.id) =
          snapshot.endpoints.map fun endpoint => endpoint.id := by
      simp only [withdraw, List.map_map]
      refine List.map_congr_left ?_
      intro endpoint _
      simp only [Function.comp_apply]
      split <;> rfl
    rw [sameIds]
    exact distinct.endpoints
  · exact distinct.links.sublist (List.filter_sublist.map _)

/-- Publishing replaces a record by identity, so identities stay distinct. -/
theorem distinctIds_apply
    {registry : Registry}
    (distinct : DistinctIds registry.snap)
    (effect : RegistryEffect) :
    DistinctIds (registry.apply effect).snap := by
  cases effect with
  | nothing => exact distinct
  | enrolled => exact ⟨distinct.endpoints, distinct.links⟩
  | endpointPublished worker endpoint =>
      exact ⟨nodup_map_replaceOrAppend distinct.endpoints, distinct.links⟩
  | linkPublished worker link =>
      exact ⟨distinct.endpoints, nodup_map_replaceOrAppend distinct.links⟩
  | capacityPublished link capacity =>
      have sameIds := map_id_updateLinks registry.snap.links link
        fun known => (rfl : { known with capacityEvidence := capacity }.id = known.id)
      refine ⟨distinct.endpoints, ?_⟩
      simp only [apply, sameIds]
      exact distinct.links
  | congestionPublished link congestion =>
      have sameIds := map_id_updateLinks registry.snap.links link
        fun known => (rfl : { known with congestion := congestion }.id = known.id)
      refine ⟨distinct.endpoints, ?_⟩
      simp only [apply, sameIds]
      exact distinct.links
  | disconnected socket worker =>
      have forgotten : DistinctIds (forgetBoots registry.snap worker) :=
        ⟨distinct.endpoints, distinct.links⟩
      simp only [apply, fenceWorker]
      split
      · exact forgotten
      · exact distinctIds_withdraw forgotten _

end Registry

namespace Coordinator

/-- A property that every effect preserves holds of the registry in every run. -/
theorem registry_invariant
    {config : Config}
    {store : Option (List UInt8)}
    {trace : List CoordinatorStep}
    {state : Coordinator}
    (run : ProcessRun config store trace state)
    (property : Registry → Prop)
    (starts : property (start store).registry)
    (steps :
      ∀ registry event, property registry →
        property (registry.apply (registry.effect event))) :
    property state.registry := by
  refine run.invariant (fun state => property state.registry) starts ?_
  intro step _ stepped holds
  rw [registry_of_step? stepped, Registry.next_eq_apply]
  exact steps _ _ holds

/-- In every run the evidence has no identity twice. -/
theorem distinctIds_of_run
    {config : Config}
    {store : Option (List UInt8)}
    {trace : List CoordinatorStep}
    {state : Coordinator}
    (run : ProcessRun config store trace state) :
    DistinctIds state.registry.snap :=
  registry_invariant run (fun registry => DistinctIds registry.snap)
    ⟨List.nodup_nil, List.nodup_nil⟩
    fun _ _ distinct => Registry.distinctIds_apply distinct _

/--
Planning does not depend on the order of the evidence, up to the identities it
draws, and every snapshot of a coordinator has the distinct identities that
this needs.
-/
theorem planning_ignores_evidence_order :
    (∀ (request : CommunicationRequest) (first second : EvidenceSnapshot)
        (weights : RankingWeights) (bounds : Bounds),
      Reordered first second →
      DistinctIds first →
      Allocation.Agrees (SameUpTo PlanOutcome.anonymous)
        (planCommunication request first weights bounds)
        (planCommunication request second weights bounds)) ∧
    ∀ (config : Config) (store : Option (List UInt8))
        (trace : List CoordinatorStep) (state : Coordinator),
      ProcessRun config store trace state →
      DistinctIds state.registry.snap := by
  constructor
  · intro request first second weights bounds reordered distinct
    rw [← planCommunication_eq_of_reordered reordered distinct request
      weights bounds]
    exact agrees_planCommunication
  · intro config store trace state run
    exact distinctIds_of_run run

/-- Two endpoints and two parallel links, in the given orders. -/
def parallelSnapshot
    (endpoints : List EndpointId)
    (links : List LinkId) : EvidenceSnapshot :=
  { endpoints :=
      endpoints.map fun id => mkEndpoint id ⟨1⟩ .cpuMemory .tcp
    links := links.map fun id => mkLink id ⟨1⟩ ⟨1⟩ ⟨2⟩ .tcp 1000 }

/-- Swapped endpoints and swapped links, and the snapshot of a deployment. -/
theorem planning_ignores_swapped_evidence :
    Allocation.Agrees (SameUpTo PlanOutcome.anonymous)
      (planCommunication (directRequest ⟨5⟩)
        (parallelSnapshot [⟨1⟩, ⟨2⟩] [⟨7⟩, ⟨8⟩]) {} {})
      (planCommunication (directRequest ⟨5⟩)
        (parallelSnapshot [⟨2⟩, ⟨1⟩] [⟨8⟩, ⟨7⟩]) {} {}) ∧
    ∃ trace state,
      ProcessRun defaultConfig none trace state ∧
      state.registry.snap.endpoints.length = 2 ∧
      DistinctIds state.registry.snap := by
  constructor
  · refine planning_ignores_evidence_order.1 _ _ _ _ _ ?_ ?_
    · exact
        { endpoints := List.Perm.swap _ _ _
          links := List.Perm.swap _ _ _
          reservations := List.Perm.refl _
          otherwise := rfl }
    · exact ⟨by decide, by decide⟩
  · have checked :
        (replay? (step? defaultConfig) (start none)
          (deployment ⟨4⟩ ⟨1⟩)).any
          (fun reached =>
            reached.2.registry.snap.endpoints.length = 2) = true := by
      decide +kernel
    obtain ⟨trace, state, run, holds⟩ := exists_run_of_replay? checked
    exact ⟨trace, state, run, by simpa using holds,
      planning_ignores_evidence_order.2 _ _ _ _ run⟩

end Coordinator

end CommunicationPlanner
