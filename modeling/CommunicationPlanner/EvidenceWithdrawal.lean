import CommunicationPlanner.RegistryEffects
import CommunicationPlanner.RecordOwnership

namespace CommunicationPlanner

open OrderedCollections TransitionRun RecordOwnership

/-!
# What is withdrawn with a worker

A worker's record lists the identities it published, and fencing the worker
withdraws what is listed.  The list is emptied by every registration and never
pruned when another worker publishes the same identity.  As long as no live
worker registers again after publishing, and nobody publishes an identity that
another connected worker lists, the lists are right: fencing a worker withdraws
what it was the last to publish, and nothing else.
-/

namespace Coordinator

/-- The worker that a step lets publish the link. -/
def publishesLink? (id : LinkId) (step : CoordinatorStep) : Option WorkerId :=
  match step.before.registry.effect step.event with
  | .linkPublished worker link => if link.id = id then some worker else none
  | _ => none

/-- The worker that a step lets publish the endpoint. -/
def publishesEndpoint?
    (id : EndpointId)
    (step : CoordinatorStep) : Option WorkerId :=
  match step.before.registry.effect step.event with
  | .endpointPublished worker endpoint =>
      if endpoint.id = id then some worker else none
  | _ => none

/-- Where the most recent accepted `PUBLISH_LINK` of the link came from. -/
def linkPublisher?
    (trace : List CoordinatorStep)
    (id : LinkId) : Option WorkerId :=
  latest? (publishesLink? id) trace

/--
Where the most recent accepted `PUBLISH_ENDPOINT` of the endpoint came from.
-/
def endpointPublisher?
    (trace : List CoordinatorStep)
    (id : EndpointId) : Option WorkerId :=
  latest? (publishesEndpoint? id) trace

/-- The worker's evidence is withdrawn, and all other evidence is left alone. -/
structure WithdrawsOnly
    (past : List CoordinatorStep)
    (worker : WorkerId)
    (before after : EvidenceSnapshot) : Prop where
  links :
    ∀ link ∈ after.links, linkPublisher? past link.id ≠ some worker
  endpoints :
    ∀ endpoint ∈ after.endpoints,
      endpointPublisher? past endpoint.id = some worker →
      endpoint.reachable = false ∧ endpoint.ready = false
  otherLinks :
    ∀ link ∈ before.links, ∀ other,
      linkPublisher? past link.id = some other →
      other ≠ worker →
      link ∈ after.links
  otherEndpoints :
    ∀ endpoint ∈ before.endpoints, ∀ other,
      endpointPublisher? past endpoint.id = some other →
      other ≠ worker →
      endpoint ∈ after.endpoints

end Coordinator

namespace Registry

/-- What the worker of a connection lists passes the test. -/
def connectedLists
    (registry : Registry)
    (test : WorkerId → WorkerInfo → Bool) : Bool :=
  registry.socketToWorker.toList.all fun entry =>
    match registry.workers[entry.2]? with
    | none => true
    | some info => test entry.2 info

/--
A live worker does not register again once it has published, and nobody
publishes an identity that another connected worker lists.
-/
def keepsLists (registry : Registry) (event : Event) : Bool :=
  match registry.effect event with
  | .enrolled _ worker _ _ =>
      match registry.workers[worker]? with
      | none => true
      | some info =>
          !info.alive || (info.endpoints.isEmpty && info.links.isEmpty)
  | .endpointPublished worker endpoint =>
      registry.connectedLists fun other info =>
        other = worker || endpoint.id ∉ info.endpoints
  | .linkPublished worker link =>
      registry.connectedLists fun other info =>
        other = worker || link.id ∉ info.links
  | _ => true

variable
  {registry : Registry}
  {worker : WorkerId}

/-- What all connected workers pass, each of them passes. -/
theorem of_connectedLists
    {test : WorkerId → WorkerInfo → Bool}
    (passes : registry.connectedLists test = true)
    {socket : Socket}
    (connected : registry.socketToWorker[socket]? = some worker)
    {info : WorkerInfo}
    (found : registry.workers[worker]? = some info) :
    test worker info = true := by
  have member : (socket, worker) ∈ registry.socketToWorker.toList :=
    Std.ExtTreeMap.mem_toList_iff_getElem?_eq_some.mpr connected
  have passed := List.all_eq_true.mp passes _ member
  simpa [found] using passed

/-- The worker is known, and is alive. -/
def live (registry : Registry) (worker : WorkerId) : Prop :=
  ∃ info : WorkerInfo,
    registry.workers[worker]? = some info ∧ info.alive = true

/-- Some connection carries the worker. -/
def connected (registry : Registry) (worker : WorkerId) : Prop :=
  ∃ socket : Socket, registry.socketToWorker[socket]? = some worker

/-- The worker's list of links has this one. -/
def listsLink (registry : Registry) (worker : WorkerId) (id : LinkId) : Prop :=
  ∃ info : WorkerInfo,
    registry.workers[worker]? = some info ∧ id ∈ info.links

/-- The worker's list of endpoints has this one. -/
def listsEndpoint
    (registry : Registry)
    (worker : WorkerId)
    (id : EndpointId) : Prop :=
  ∃ info : WorkerInfo,
    registry.workers[worker]? = some info ∧ id ∈ info.endpoints

/-- The links, as records that the workers list. -/
def linkAccounts
    (registry : Registry)
    (trace : List CoordinatorStep) : Accounts WorkerId LinkId where
  live := registry.live
  attached := registry.connected
  listed := registry.listsLink
  publisher := Coordinator.linkPublisher? trace
  present id := ∃ link ∈ registry.snap.links, link.id = id

/-- The endpoints; one that is neither reachable nor ready counts as withdrawn. -/
def endpointAccounts
    (registry : Registry)
    (trace : List CoordinatorStep) : Accounts WorkerId EndpointId where
  live := registry.live
  attached := registry.connected
  listed := registry.listsEndpoint
  publisher := Coordinator.endpointPublisher? trace
  present id :=
    ∃ endpoint ∈ registry.snap.endpoints,
      endpoint.id = id ∧
        (endpoint.reachable = true ∨ endpoint.ready = true)

/-! ## Registrations -/

/-- A registration leaves every live worker live. -/
theorem live_enroll
    {socket : Socket}
    {boot : WorkerBootId}
    {name : Text}
    {other : WorkerId}
    (isLive : registry.live other) :
    (registry.enroll socket worker boot name).live other := by
  unfold live
  rw [getElem?_workers_enroll]
  split_ifs with same
  · simp
  · exact isLive

/-- A registration connects nobody else. -/
theorem connected_enroll
    {socket : Socket}
    {boot : WorkerBootId}
    {name : Text}
    {other : WorkerId}
    (different : other ≠ worker)
    (isConnected :
      (registry.enroll socket worker boot name).connected other) :
    registry.connected other := by
  obtain ⟨carrier, found⟩ := isConnected
  simp only [enroll, Std.ExtTreeMap.getElem?_insert,
    Std.LawfulEqCmp.compare_eq_iff_eq] at found
  split_ifs at found with same
  · cases found
    exact (different rfl).elim
  · exact ⟨carrier, found⟩

/-- A registration empties the worker's list of links. -/
theorem listsLink_enroll
    {socket : Socket}
    {boot : WorkerBootId}
    {name : Text}
    {other : WorkerId}
    {id : LinkId} :
    (registry.enroll socket worker boot name).listsLink other id ↔
      other ≠ worker ∧ registry.listsLink other id := by
  unfold listsLink
  rw [getElem?_workers_enroll]
  split_ifs with same
  · simp [same]
  · simp [Ne.symm same]

/-- A registration empties the worker's list of endpoints. -/
theorem listsEndpoint_enroll
    {socket : Socket}
    {boot : WorkerBootId}
    {name : Text}
    {other : WorkerId}
    {id : EndpointId} :
    (registry.enroll socket worker boot name).listsEndpoint other id ↔
      other ≠ worker ∧ registry.listsEndpoint other id := by
  unfold listsEndpoint
  rw [getElem?_workers_enroll]
  split_ifs with same
  · simp [same]
  · simp [Ne.symm same]

/-! ## Publications -/

/-- Whoever has the authority to publish is live. -/
theorem live_of_authorized
    {boot : WorkerBootId}
    (authority : registry.authorized worker boot = true) :
    registry.live worker := by
  obtain ⟨info, found, alive, _⟩ := authorized_iff.mp authority
  exact ⟨info, found, alive⟩

/-- Publishing a link changes nobody's life. -/
theorem live_apply_linkPublished
    {link : Link}
    {other : WorkerId} :
    (registry.apply (.linkPublished worker link)).live other ↔
      registry.live other := by
  simp only [live, apply, getElem?_listLink]
  split_ifs <;> simp

/-- Publishing an endpoint changes nobody's life. -/
theorem live_apply_endpointPublished
    {endpoint : Endpoint}
    {other : WorkerId} :
    (registry.apply (.endpointPublished worker endpoint)).live other ↔
      registry.live other := by
  simp only [live, apply, getElem?_listEndpoint]
  split_ifs <;> simp

/-- A published link is listed, by its publisher. -/
theorem listsLink_apply_linkPublished
    {link : Link}
    (isLive : registry.live worker)
    {other : WorkerId}
    {id : LinkId} :
    (registry.apply (.linkPublished worker link)).listsLink other id ↔
      registry.listsLink other id ∨ other = worker ∧ id = link.id := by
  obtain ⟨info, found, _⟩ := isLive
  simp only [listsLink, apply, getElem?_listLink]
  split_ifs with same
  · subst same
    simp [found]
  · simp [Ne.symm same]

/-- A published endpoint is listed, by its publisher. -/
theorem listsEndpoint_apply_endpointPublished
    {endpoint : Endpoint}
    (isLive : registry.live worker)
    {other : WorkerId}
    {id : EndpointId} :
    (registry.apply (.endpointPublished worker endpoint)).listsEndpoint
        other id ↔
      registry.listsEndpoint other id ∨
        other = worker ∧ id = endpoint.id := by
  obtain ⟨info, found, _⟩ := isLive
  simp only [listsEndpoint, apply, getElem?_listEndpoint]
  split_ifs with same
  · subst same
    simp [found]
  · simp [Ne.symm same]

/-- Publishing an endpoint lists no link. -/
theorem listsLink_apply_endpointPublished
    {endpoint : Endpoint}
    {other : WorkerId}
    {id : LinkId} :
    (registry.apply (.endpointPublished worker endpoint)).listsLink other
        id ↔
      registry.listsLink other id := by
  simp only [listsLink, apply, getElem?_listEndpoint]
  split_ifs <;> simp

/-- Publishing a link lists no endpoint. -/
theorem listsEndpoint_apply_linkPublished
    {link : Link}
    {other : WorkerId}
    {id : EndpointId} :
    (registry.apply (.linkPublished worker link)).listsEndpoint other id ↔
      registry.listsEndpoint other id := by
  simp only [listsEndpoint, apply, getElem?_listLink]
  split_ifs <;> simp

/-! ## Fencing -/

/-- A fence leaves the other workers live. -/
theorem live_fenceWorker
    {other : WorkerId}
    (different : other ≠ worker)
    (isLive : registry.live other) :
    (registry.fenceWorker worker).live other := by
  unfold live
  rw [getElem?_workers_fenceWorker, if_neg (Ne.symm different)]
  exact isLive

/-- A fence leaves the lists of links. -/
theorem listsLink_fenceWorker
    {other : WorkerId}
    {id : LinkId} :
    (registry.fenceWorker worker).listsLink other id ↔
      registry.listsLink other id := by
  unfold listsLink
  rw [getElem?_workers_fenceWorker]
  split_ifs <;> simp

/-- A fence leaves the lists of endpoints. -/
theorem listsEndpoint_fenceWorker
    {other : WorkerId}
    {id : EndpointId} :
    (registry.fenceWorker worker).listsEndpoint other id ↔
      registry.listsEndpoint other id := by
  unfold listsEndpoint
  rw [getElem?_workers_fenceWorker]
  split_ifs <;> simp

/-- Exactly the listed links go. -/
theorem mem_links_fenceWorker
    {link : Link} :
    link ∈ (registry.fenceWorker worker).snap.links ↔
      link ∈ registry.snap.links ∧ ¬registry.listsLink worker link.id := by
  unfold fenceWorker listsLink
  cases found : registry.workers[worker]? with
  | none => simp [forgetBoots]
  | some info => simp [withdraw, forgetBoots]

/-- Exactly the listed endpoints are marked. -/
theorem mem_endpoints_fenceWorker
    {endpoint : Endpoint} :
    endpoint ∈ (registry.fenceWorker worker).snap.endpoints ↔
      (endpoint ∈ registry.snap.endpoints ∧
        ¬registry.listsEndpoint worker endpoint.id) ∨
      ∃ known ∈ registry.snap.endpoints,
        registry.listsEndpoint worker known.id ∧
        endpoint = { known with reachable := false, ready := false } := by
  unfold fenceWorker listsEndpoint
  cases found : registry.workers[worker]? with
  | none => simp [forgetBoots]
  | some info =>
      simp only [withdraw, forgetBoots, List.mem_map, Option.some.injEq,
        exists_eq_left']
      constructor
      · rintro ⟨known, member, rfl⟩
        split_ifs with listed
        · exact .inr ⟨known, member, listed, rfl⟩
        · exact .inl ⟨member, listed⟩
      · rintro (⟨member, unlisted⟩ | ⟨known, member, listed, rfl⟩)
        · exact ⟨endpoint, member, if_neg unlisted⟩
        · exact ⟨known, member, if_pos listed⟩

/-- The end of a connection connects nobody. -/
theorem connected_apply_disconnected
    {socket : Socket}
    {other : WorkerId}
    (isConnected :
      (registry.apply (.disconnected socket worker)).connected other) :
    registry.connected other := by
  obtain ⟨carrier, found⟩ := isConnected
  simp only [apply, Std.ExtTreeMap.getElem?_erase,
    Std.LawfulEqCmp.compare_eq_iff_eq] at found
  split_ifs at found with same
  exact ⟨carrier, found⟩

end Registry

namespace Coordinator

variable
  {config : Config}
  {store : Option (List UInt8)}
  {trace : List CoordinatorStep}
  {before after final : Coordinator}
  {event : Event}
  {outputs : List Action}

/-! ## The links -/

/-- A link is present as before, whatever its evidence. -/
private theorem present_updateLinks
    {links : List Link}
    {updated id : LinkId}
    {update : Link → Link}
    (keeps : ∀ link, (update link).id = link.id)
    (present :
      ∃ link ∈ Registry.updateLinks links updated update, link.id = id) :
    ∃ link ∈ links, link.id = id := by
  obtain ⟨link, member, same⟩ := present
  obtain ⟨known, knownMember, rfl⟩ := List.mem_map.mp member
  refine ⟨known, knownMember, ?_⟩
  rw [← same]
  split_ifs
  · exact (keeps known).symm
  · rfl

/--
The accounts of the links after a step.  Only an accepted publication of a link
changes who published it.
-/
theorem accounted_links_snoc
    (accounted : Accounted (before.registry.linkAccounts trace))
    (distinct : DistinctIds before.registry.snap)
    (stepped : step? config before event = some (after, outputs))
    (keeps : before.registry.keepsLists event = true) :
    Accounted (after.registry.linkAccounts
      (trace ++ [⟨before, event, outputs, after⟩])) := by
  have sameRegistry := registry_of_step? stepped
  rw [Registry.next_eq_apply] at sameRegistry
  have caused := before.registry.effectOf event
  generalize isEffect : before.registry.effect event = effect
    at caused sameRegistry
  have samePublisher :
      (∀ worker link, effect ≠ .linkPublished worker link) →
      ∀ id,
        linkPublisher? (trace ++ [⟨before, event, outputs, after⟩]) id =
          linkPublisher? trace id := by
    intro notLink id
    have unobserved :
        publishesLink? id ⟨before, event, outputs, after⟩ = none := by
      simp only [publishesLink?, isEffect]
    simp [linkPublisher?, unobserved]
  rw [sameRegistry]
  cases caused with
  | nothing =>
      exact accounted.weaken (fun _ => id) (fun _ => id)
        (fun _ _ => Iff.rfl) (samePublisher (by simp)) (fun _ => id)
  | capacityPublished socket message kind =>
      exact accounted.weaken (fun _ => id) (fun _ => id)
        (fun _ _ => Iff.rfl) (samePublisher (by simp))
        (fun _ => present_updateLinks fun _ => rfl)
  | congestionPublished socket message kind =>
      exact accounted.weaken (fun _ => id) (fun _ => id)
        (fun _ _ => Iff.rfl) (samePublisher (by simp))
        (fun _ => present_updateLinks fun _ => rfl)
  | endpointPublished socket message kind authority =>
      exact accounted.weaken
        (fun _ => Registry.live_apply_endpointPublished.mpr)
        (fun _ => id)
        (fun _ _ => Registry.listsLink_apply_endpointPublished)
        (samePublisher (by simp)) (fun _ => id)
  | enrolled socket message kind admitted =>
      refine accounted.enter ?_ (fun _ _ => Registry.live_enroll)
        (fun _ => Registry.connected_enroll)
        (fun _ listed => (Registry.listsLink_enroll.mp listed).1 rfl)
        (fun _ _ different => ?_) (samePublisher (by simp)) (fun _ => id)
      · rintro ⟨info, found, alive⟩ id ⟨known, knownFound, listed⟩
        rw [found] at knownFound
        cases knownFound
        simp [Registry.keepsLists, isEffect, found, alive] at keeps
        rw [keeps.2] at listed
        cases listed
      · exact Registry.listsLink_enroll.trans (and_iff_right different)
  | linkPublished socket message kind authority =>
      have isLive := Registry.live_of_authorized authority
      refine accounted.publish isLive ?_
        (fun _ => Registry.live_apply_linkPublished) (fun _ => Iff.rfl)
        (fun _ _ => Registry.listsLink_apply_linkPublished isLive) ?_ ?_ ?_
      · rintro other different ⟨carrier, connected⟩ ⟨info, found, listed⟩
        simp only [Registry.keepsLists, isEffect] at keeps
        have passed := Registry.of_connectedLists keeps connected found
        simp [different, listed] at passed
      · change linkPublisher? _ _ = _
        simp [linkPublisher?, publishesLink?, isEffect]
      · intro id different
        change linkPublisher? _ _ = linkPublisher? _ _
        simp [linkPublisher?, publishesLink?, isEffect, Ne.symm different]
      · rintro id ⟨link, member, rfl⟩
        rcases (mem_replaceOrAppend distinct.links).mp member with
          rfl | ⟨known, _⟩
        · exact .inl rfl
        · exact .inr ⟨link, known, rfl⟩
  | disconnected socket worker registered =>
      refine accounted.withdraw
        (fun _ different => Registry.live_fenceWorker different)
        (fun _ => Registry.connected_apply_disconnected)
        (fun _ _ => Registry.listsLink_fenceWorker)
        (samePublisher (by simp)) ?_
      rintro id ⟨link, member, rfl⟩
      obtain ⟨known, unlisted⟩ := Registry.mem_links_fenceWorker.mp member
      exact ⟨⟨link, known, rfl⟩, unlisted⟩

/-! ## The endpoints -/

/-- An endpoint that is usable after the fence was usable and not listed. -/
private theorem usable_of_fenceWorker
    {registry : Registry}
    {worker : WorkerId}
    {endpoint : Endpoint}
    (member : endpoint ∈ (registry.fenceWorker worker).snap.endpoints)
    (usable : endpoint.reachable = true ∨ endpoint.ready = true) :
    (registry.endpointAccounts trace).present endpoint.id ∧
      ¬registry.listsEndpoint worker endpoint.id := by
  rcases Registry.mem_endpoints_fenceWorker.mp member with
    ⟨known, unlisted⟩ | ⟨known, _, _, rfl⟩
  · exact ⟨⟨endpoint, known, rfl, usable⟩, unlisted⟩
  · rcases usable with reachable | ready
    · cases reachable
    · cases ready

/--
The accounts of the endpoints after a step.  Only an accepted publication of an
endpoint changes who published it.
-/
theorem accounted_endpoints_snoc
    (accounted : Accounted (before.registry.endpointAccounts trace))
    (distinct : DistinctIds before.registry.snap)
    (stepped : step? config before event = some (after, outputs))
    (keeps : before.registry.keepsLists event = true) :
    Accounted (after.registry.endpointAccounts
      (trace ++ [⟨before, event, outputs, after⟩])) := by
  have sameRegistry := registry_of_step? stepped
  rw [Registry.next_eq_apply] at sameRegistry
  have caused := before.registry.effectOf event
  generalize isEffect : before.registry.effect event = effect
    at caused sameRegistry
  have samePublisher :
      (∀ worker endpoint, effect ≠ .endpointPublished worker endpoint) →
      ∀ id,
        endpointPublisher? (trace ++ [⟨before, event, outputs, after⟩])
            id =
          endpointPublisher? trace id := by
    intro notEndpoint id
    have unobserved :
        publishesEndpoint? id ⟨before, event, outputs, after⟩ = none := by
      simp only [publishesEndpoint?, isEffect]
    simp [endpointPublisher?, unobserved]
  rw [sameRegistry]
  cases caused with
  | nothing | capacityPublished socket message kind
  | congestionPublished socket message kind =>
      exact accounted.weaken (fun _ => id) (fun _ => id)
        (fun _ _ => Iff.rfl) (samePublisher (by simp)) (fun _ => id)
  | linkPublished socket message kind authority =>
      exact accounted.weaken
        (fun _ => Registry.live_apply_linkPublished.mpr)
        (fun _ => id)
        (fun _ _ => Registry.listsEndpoint_apply_linkPublished)
        (samePublisher (by simp)) (fun _ => id)
  | enrolled socket message kind admitted =>
      refine accounted.enter ?_ (fun _ _ => Registry.live_enroll)
        (fun _ => Registry.connected_enroll)
        (fun _ listed => (Registry.listsEndpoint_enroll.mp listed).1 rfl)
        (fun _ _ different => ?_) (samePublisher (by simp)) (fun _ => id)
      · rintro ⟨info, found, alive⟩ id ⟨known, knownFound, listed⟩
        rw [found] at knownFound
        cases knownFound
        simp [Registry.keepsLists, isEffect, found, alive] at keeps
        rw [keeps.1] at listed
        cases listed
      · exact Registry.listsEndpoint_enroll.trans (and_iff_right different)
  | endpointPublished socket message kind authority =>
      have isLive := Registry.live_of_authorized authority
      refine accounted.publish isLive ?_
        (fun _ => Registry.live_apply_endpointPublished) (fun _ => Iff.rfl)
        (fun _ _ => Registry.listsEndpoint_apply_endpointPublished isLive)
        ?_ ?_ ?_
      · rintro other different ⟨carrier, connected⟩ ⟨info, found, listed⟩
        simp only [Registry.keepsLists, isEffect] at keeps
        have passed := Registry.of_connectedLists keeps connected found
        simp [different, listed] at passed
      · change endpointPublisher? _ _ = _
        simp [endpointPublisher?, publishesEndpoint?, isEffect]
      · intro id different
        change endpointPublisher? _ _ = endpointPublisher? _ _
        simp [endpointPublisher?, publishesEndpoint?, isEffect,
          Ne.symm different]
      · rintro id ⟨endpoint, member, rfl, usable⟩
        rcases (mem_replaceOrAppend distinct.endpoints).mp member with
          rfl | ⟨known, _⟩
        · exact .inl rfl
        · exact .inr ⟨endpoint, known, rfl, usable⟩
  | disconnected socket worker registered =>
      refine accounted.withdraw
        (fun _ different => Registry.live_fenceWorker different)
        (fun _ => Registry.connected_apply_disconnected)
        (fun _ _ => Registry.listsEndpoint_fenceWorker)
        (samePublisher (by simp)) ?_
      rintro id ⟨endpoint, member, rfl, usable⟩
      exact usable_of_fenceWorker member usable

/-- In a run that keeps the lists they account for all evidence. -/
theorem accounted_of_run
    (run : ProcessRun config store trace final)
    (keeps :
      ∀ step ∈ trace, step.before.registry.keepsLists step.event = true) :
    Accounted (final.registry.linkAccounts trace) ∧
      Accounted (final.registry.endpointAccounts trace) := by
  refine run.invariant_trace
    (fun trace state =>
      Accounted (state.registry.linkAccounts trace) ∧
        Accounted (state.registry.endpointAccounts trace)) ?_ ?_
  · constructor
    · constructor
      · rintro worker id published ⟨link, member, _⟩
        cases member
      · rintro worker id ⟨socket, connected⟩ _
        simp [start] at connected
    · constructor
      · rintro worker id published ⟨endpoint, member, _⟩
        cases member
      · rintro worker id ⟨socket, connected⟩ _
        simp [start] at connected
  · intro earlier before event after outputs earlierRun member accounted
      stepped
    have distinct := distinctIds_of_run earlierRun
    exact ⟨accounted_links_snoc accounted.1 distinct stepped
        (keeps _ member),
      accounted_endpoints_snoc accounted.2 distinct stepped
        (keeps _ member)⟩

/--
In a run that keeps the lists, the end of a connection that fences a worker
removes every link that the worker was the last to publish, makes every such
endpoint unreachable and not ready, and leaves alone what others published.
-/
theorem fencing_withdraws_published
    (run : ProcessRun config store trace final)
    (keeps :
      ∀ step ∈ trace, step.before.registry.keepsLists step.event = true) :
    ∀ past step future socket worker,
      trace = past ++ step :: future →
      step.event = .disconnect socket →
      step.before.registry.socketToWorker[socket]? = some worker →
      WithdrawsOnly past worker step.before.registry.snap
        step.after.registry.snap := by
  rintro past step future socket worker rfl isEnd connected
  obtain ⟨pastRun, stepped, _⟩ := run.cut
  obtain ⟨links, endpoints⟩ := accounted_of_run pastRun
    fun earlier member => keeps earlier (List.mem_append_left _ member)
  have isConnected : step.before.registry.connected worker :=
    ⟨socket, connected⟩
  rw [isEnd] at stepped
  have sameRegistry := registry_of_step? stepped
  rw [Registry.next_eq_apply, Registry.effect, connected] at sameRegistry
  have sameSnap :
      step.after.registry.snap =
        (step.before.registry.fenceWorker worker).snap := by
    rw [sameRegistry]
    rfl
  rw [sameSnap]
  refine ⟨?_, ?_, ?_, ?_⟩
  · intro link member published
    obtain ⟨known, unlisted⟩ := Registry.mem_links_fenceWorker.mp member
    exact unlisted (links.complete worker link.id published
      ⟨link, known, rfl⟩).2
  · intro endpoint member published
    by_contra notDown
    have usable : endpoint.reachable = true ∨ endpoint.ready = true := by
      rw [← Bool.not_eq_false, ← Bool.not_eq_false]
      exact not_and_or.mp notDown
    obtain ⟨wasUsable, unlisted⟩ := usable_of_fenceWorker member usable
    exact unlisted (endpoints.complete worker endpoint.id published
      wasUsable).2
  · intro link member other published different
    exact Registry.mem_links_fenceWorker.mpr ⟨member,
      links.not_listed_of_published isConnected different published⟩
  · intro endpoint member other published different
    exact Registry.mem_endpoints_fenceWorker.mpr (.inl ⟨member,
      endpoints.not_listed_of_published isConnected different published⟩)

/--
Of two workers one ends; its link goes, and the endpoint of the other stays.
-/
theorem ended_worker_withdraws_its_link :
    ∃ past middle after outputs,
      ProcessRun defaultConfig none past middle ∧
      step? defaultConfig middle (.disconnect ⟨4⟩) =
        some (after, outputs) ∧
      linkPublisher? past ⟨7⟩ = some ⟨1⟩ ∧
      endpointPublisher? past ⟨9⟩ = some ⟨2⟩ ∧
      WithdrawsOnly past ⟨1⟩ middle.registry.snap after.registry.snap := by
  have checked :
      (replay? (step? defaultConfig) (start none)
        (deployment ⟨4⟩ ⟨1⟩ ++
          .accept ⟨5⟩ ::
          receiveAll ⟨5⟩
            [ CoordinatorClient.registerWorker ⟨2⟩ ⟨1⟩ [],
              CoordinatorClient.publishEndpoint ⟨2⟩ ⟨1⟩
                (mkEndpoint ⟨9⟩ ⟨1⟩ .cpuMemory .tcp) ])).any
        (fun reached =>
          (reached.1.all fun step =>
            step.before.registry.keepsLists step.event) &&
          reached.2.registry.keepsLists (.disconnect ⟨4⟩) &&
          linkPublisher? reached.1 ⟨7⟩ = some ⟨1⟩ &&
          endpointPublisher? reached.1 ⟨9⟩ = some ⟨2⟩ &&
          reached.2.registry.socketToWorker[(⟨4⟩ : Socket)]? = some ⟨1⟩ &&
          (step? defaultConfig reached.2 (.disconnect ⟨4⟩)).isSome) =
        true := by
    decide +kernel
  obtain ⟨past, middle, reached, holds⟩ := exists_run_of_replay? checked
  simp only [Bool.and_eq_true, List.all_eq_true, decide_eq_true_eq] at holds
  obtain ⟨⟨⟨⟨⟨pastKeeps, keeps⟩, link⟩, endpoint⟩, connected⟩, ends⟩ := holds
  obtain ⟨⟨after, outputs⟩, stepped⟩ := Option.isSome_iff_exists.mp ends
  have withdraws := fencing_withdraws_published (reached.snoc stepped)
    (by
      intro step member
      rcases List.mem_append.mp member with inPast | isLast
      · exact pastKeeps step inPast
      · rw [List.mem_singleton.mp isLast]
        exact keeps)
    past _ [] ⟨4⟩ ⟨1⟩ rfl rfl connected
  exact ⟨past, middle, after, outputs, reached, stepped, link, endpoint,
    withdraws⟩

/-- A second registration empties the list, and the link outlives its worker. -/
theorem registering_again_leaves_link_behind :
    ∃ past middle after outputs,
      ProcessRun defaultConfig none past middle ∧
      middle.registry.socketToWorker[(⟨4⟩ : Socket)]? = some ⟨1⟩ ∧
      step? defaultConfig middle (.disconnect ⟨4⟩) =
        some (after, outputs) ∧
      (⟨1⟩, ⟨1⟩) ∈ after.registry.fenced ∧
      ∃ link ∈ after.registry.snap.links,
        linkPublisher? past link.id = some ⟨1⟩ := by
  have checked :
      (replay? (step? defaultConfig) (start none)
        (deployment ⟨4⟩ ⟨1⟩ ++
          receiveAll ⟨4⟩
            [CoordinatorClient.registerWorker ⟨1⟩ ⟨1⟩ []])).any
        (fun reached =>
          reached.2.registry.socketToWorker[(⟨4⟩ : Socket)]? = some ⟨1⟩ &&
          (step? defaultConfig reached.2 (.disconnect ⟨4⟩)).any
            fun ended =>
              (⟨1⟩, ⟨1⟩) ∈ ended.1.registry.fenced &&
              ended.1.registry.snap.links.any fun link =>
                linkPublisher? reached.1 link.id = some ⟨1⟩) = true := by
    decide +kernel
  obtain ⟨past, middle, reached, holds⟩ := exists_run_of_replay? checked
  simp only [Bool.and_eq_true, decide_eq_true_eq] at holds
  obtain ⟨connected, ends⟩ := holds
  obtain ⟨⟨after, outputs⟩, stepped, left⟩ :=
    (Option.any_eq_true _ _).mp ends
  simp only [Bool.and_eq_true, decide_eq_true_eq, List.any_eq_true] at left
  obtain ⟨isFenced, link, member, published⟩ := left
  exact ⟨past, middle, after, outputs, reached, connected, stepped,
    isFenced, link, member, published⟩

end Coordinator

end CommunicationPlanner
