import CommunicationPlanner.Fencing

namespace CommunicationPlanner

open OrderedCollections TransitionRun

/-!
# What the end of a connection fences

A connection carries the incarnations that were registered over it and not
since then over another one.  The coordinator keeps only the worker of a
socket, and fences whatever incarnation that worker has when the socket ends.
The two agree as long as a registration never displaces a live incarnation from
its own socket and a socket never ends under a worker that is live over another
one.
-/

namespace Coordinator

/-- The incarnation is registered over the socket by this step. -/
def registers
    (step : CoordinatorStep)
    (socket : Socket)
    (worker : WorkerId)
    (boot : WorkerBootId) : Bool :=
  match step.before.registry.effect step.event with
  | .enrolled carrier registered under _ =>
      carrier = socket && registered = worker && under = boot
  | _ => false

/-- The worker leaves the socket: by registering over another, or with it. -/
def detaches
    (step : CoordinatorStep)
    (socket : Socket)
    (worker : WorkerId) : Bool :=
  match step.event with
  | .disconnect ended => ended = socket
  | _ =>
      match step.before.registry.effect step.event with
      | .enrolled carrier registered _ _ =>
          carrier ≠ socket && registered = worker
      | _ => false

/-- The incarnations that were registered over a socket and not replaced. -/
def RegisteredOver
    (trace : List CoordinatorStep)
    (socket : Socket)
    (worker : WorkerId)
    (boot : WorkerBootId) : Prop :=
  StandsIn (fun step => registers step socket worker boot)
    (fun step => detaches step socket worker) trace

/--
The end of the connection fences what was registered over it, and only that.
-/
structure FencesRegistered
    (past : List CoordinatorStep)
    (socket : Socket)
    (before after : Registry) : Prop where
  fenced :
    ∀ worker boot,
      (worker, boot) ∈ after.fenced ↔
        (worker, boot) ∈ before.fenced ∨
          RegisteredOver past socket worker boot
  dead :
    ∀ (worker : WorkerId) (boot : WorkerBootId),
      RegisteredOver past socket worker boot →
      after.snap.workerBoots[worker]? = none ∧
      ∀ info : WorkerInfo,
        after.workers[worker]? = some info → info.alive = false
  others :
    ∀ worker : WorkerId,
      (∀ boot, ¬RegisteredOver past socket worker boot) →
      after.workers[worker]? = before.workers[worker]? ∧
      after.snap.workerBoots[worker]? = before.snap.workerBoots[worker]?

end Coordinator

namespace Registry

/--
A registration does not displace another live incarnation from its own socket,
and a socket does not end under a worker that is live over another socket.
-/
def keepsSockets (registry : Registry) (event : Event) : Bool :=
  match registry.effect event with
  | .enrolled socket worker boot _ =>
      match registry.socketToWorker[socket]? with
      | none => true
      | some known =>
          match registry.workers[known]? with
          | none => true
          | some info =>
              !info.alive || info.sock ≠ socket ||
                (known = worker && info.boot = boot)
  | .disconnected socket worker =>
      match registry.workers[worker]? with
      | none => true
      | some info => !info.alive || info.sock = socket
  | _ => true

/-- The incarnation is live, and the socket is the one it registered over. -/
def LiveOver
    (registry : Registry)
    (socket : Socket)
    (worker : WorkerId)
    (boot : WorkerBootId) : Prop :=
  ∃ info : WorkerInfo,
    registry.workers[worker]? = some info ∧
    info.alive = true ∧ info.sock = socket ∧ info.boot = boot

/-- The socket of a live worker leads to it, and the dead are fenced. -/
structure SocketsKept (registry : Registry) : Prop where
  mapped :
    ∀ socket worker boot,
      registry.LiveOver socket worker boot →
      registry.socketToWorker[socket]? = some worker
  fenced :
    ∀ (worker : WorkerId) (info : WorkerInfo),
      registry.workers[worker]? = some info →
      info.alive = false →
      (worker, info.boot) ∈ registry.fenced

variable
  {registry : Registry}
  {socket other : Socket}
  {worker : WorkerId}
  {boot : WorkerBootId}

/-! ## Registrations -/

/-- A registration makes one incarnation live, over its own socket. -/
theorem liveOver_enroll
    {name : Text}
    {wanted : WorkerId}
    {wantedBoot : WorkerBootId} :
    (registry.enroll socket worker boot name).LiveOver other wanted
        wantedBoot ↔
      if worker = wanted then
        socket = other ∧ boot = wantedBoot
      else
        registry.LiveOver other wanted wantedBoot := by
  unfold LiveOver
  rw [getElem?_workers_enroll]
  split_ifs with same
  · simp
  · rfl

/-- A registration displaces nobody but the worker's own earlier records. -/
private theorem eq_of_displaced
    (kept : SocketsKept registry)
    {event : Event}
    {name : Text}
    (caused : registry.effect event = .enrolled socket worker boot name)
    (keeps : registry.keepsSockets event = true)
    {known : WorkerId}
    {knownBoot : WorkerBootId}
    (live : registry.LiveOver socket known knownBoot) :
    known = worker ∧ knownBoot = boot := by
  have mapped := kept.mapped _ _ _ live
  obtain ⟨info, found, alive, sameSocket, sameBoot⟩ := live
  simp only [keepsSockets, caused, mapped, found, alive, sameSocket,
    Bool.not_true, Bool.false_or, ne_eq, not_true_eq_false, decide_false,
    Bool.and_eq_true, decide_eq_true_eq] at keeps
  exact ⟨keeps.1, sameBoot ▸ keeps.2⟩

/-- A registration that keeps the sockets apart keeps the invariant. -/
private theorem SocketsKept.enroll
    (kept : SocketsKept registry)
    {event : Event}
    {name : Text}
    (caused : registry.effect event = .enrolled socket worker boot name)
    (keeps : registry.keepsSockets event = true) :
    SocketsKept (registry.enroll socket worker boot name) := by
  constructor
  · intro carrier wanted wantedBoot live
    rw [liveOver_enroll] at live
    simp only [Registry.enroll, Std.ExtTreeMap.getElem?_insert,
      Std.LawfulEqCmp.compare_eq_iff_eq]
    split_ifs at live with same
    · rw [if_pos live.1, same]
    · have elsewhere : socket ≠ carrier := by
        rintro rfl
        exact same (eq_of_displaced kept caused keeps live).1.symm
      rw [if_neg elsewhere]
      exact kept.mapped _ _ _ live
  · intro wanted info found dead
    rw [getElem?_workers_enroll] at found
    split_ifs at found with same
    · cases found
      cases dead
    · exact kept.fenced wanted info found dead

/-! ## The end of a connection -/

/-- A fence ends the incarnations of one worker. -/
theorem liveOver_fenceWorker
    {wanted : WorkerId} :
    (registry.fenceWorker worker).LiveOver socket wanted boot ↔
      worker ≠ wanted ∧ registry.LiveOver socket wanted boot := by
  unfold LiveOver
  rw [getElem?_workers_fenceWorker]
  split_ifs with same
  · constructor
    · rintro ⟨info, found, alive, _⟩
      obtain ⟨known, _, rfl⟩ := Option.map_eq_some_iff.mp found
      cases alive
    · rintro ⟨different, _⟩
      exact (different same).elim
  · simp [same]

/-- The end of a connection keeps the invariant. -/
private theorem SocketsKept.disconnected
    (kept : SocketsKept registry)
    (registered : registry.socketToWorker[socket]? = some worker) :
    SocketsKept (registry.apply (.disconnected socket worker)) := by
  constructor
  · intro carrier wanted wantedBoot live
    obtain ⟨different, live⟩ := liveOver_fenceWorker.mp live
    have mapped := kept.mapped _ _ _ live
    have elsewhere : socket ≠ carrier := by
      rintro rfl
      rw [registered] at mapped
      cases mapped
      exact different rfl
    simp only [Registry.apply, Std.ExtTreeMap.getElem?_erase,
      Std.LawfulEqCmp.compare_eq_iff_eq, if_neg elsewhere]
    exact mapped
  · intro wanted info found dead
    change (registry.fenceWorker worker).workers[wanted]? = some info
      at found
    rw [getElem?_workers_fenceWorker] at found
    refine mem_fenced_fenceWorker.mpr ?_
    split_ifs at found with same
    · subst same
      obtain ⟨known, knownFound, rfl⟩ := Option.map_eq_some_iff.mp found
      exact .inr ⟨known, knownFound, rfl⟩
    · exact .inl (kept.fenced wanted info found dead)

/-! ## Publications -/

/-- Who is live over what depends on three fields of the workers. -/
private theorem liveOver_of_lives
    {listed : Registry}
    (sameLives :
      ∀ wanted : WorkerId,
        (listed.workers[wanted]?.map fun info =>
          (info.alive, info.sock, info.boot)) =
        registry.workers[wanted]?.map fun info =>
          (info.alive, info.sock, info.boot)) :
    listed.LiveOver socket worker boot ↔
      registry.LiveOver socket worker boot := by
  have same := congrArg (fun life => life = some (true, socket, boot))
    (sameLives worker)
  simpa [Option.map_eq_some_iff, LiveOver] using same

/-- A change of the lists alone keeps the invariant. -/
private theorem SocketsKept.list
    (kept : SocketsKept registry)
    {listed : Registry}
    (sameSockets : listed.socketToWorker = registry.socketToWorker)
    (sameFenced : listed.fenced = registry.fenced)
    (sameLives :
      ∀ wanted : WorkerId,
        (listed.workers[wanted]?.map fun info =>
          (info.alive, info.sock, info.boot)) =
        registry.workers[wanted]?.map fun info =>
          (info.alive, info.sock, info.boot)) :
    SocketsKept listed := by
  constructor
  · intro carrier wanted wantedBoot live
    rw [sameSockets]
    exact kept.mapped _ _ _ ((liveOver_of_lives sameLives).mp live)
  · intro wanted info found dead
    have same := congrArg
      (fun life => life = some (info.alive, info.sock, info.boot))
      (sameLives wanted)
    simp only [found, Option.map_some, Option.map_eq_some_iff,
      Prod.mk.injEq, eq_iff_iff, true_iff] at same
    obtain ⟨known, knownFound, sameAlive, _, sameBoot⟩ := same
    rw [sameFenced, ← sameBoot]
    exact kept.fenced wanted known knownFound (sameAlive.trans dead)

/-- Listing an endpoint changes none of those fields. -/
private theorem lives_listEndpoint
    (workers : Map WorkerId WorkerInfo)
    (id : EndpointId)
    (wanted : WorkerId) :
    ((listEndpoint workers worker id)[wanted]?.map fun info =>
        (info.alive, info.sock, info.boot)) =
      workers[wanted]?.map fun info =>
        (info.alive, info.sock, info.boot) := by
  rw [getElem?_listEndpoint]
  split <;> simp [Function.comp_def]

/-- Listing a link changes none of those fields. -/
private theorem lives_listLink
    (workers : Map WorkerId WorkerInfo)
    (id : LinkId)
    (wanted : WorkerId) :
    ((listLink workers worker id)[wanted]?.map fun info =>
        (info.alive, info.sock, info.boot)) =
      workers[wanted]?.map fun info =>
        (info.alive, info.sock, info.boot) := by
  rw [getElem?_listLink]
  split <;> simp [Function.comp_def]

end Registry

namespace Coordinator

/-- The connections carry exactly the live incarnations. -/
structure SocketsTracked
    (trace : List CoordinatorStep)
    (registry : Registry) : Prop where
  kept : registry.SocketsKept
  live :
    ∀ socket worker boot,
      RegisteredOver trace socket worker boot ↔
        registry.LiveOver socket worker boot

variable
  {config : Config}
  {store : Option (List UInt8)}
  {trace past future : List CoordinatorStep}
  {final : Coordinator}

/-- A registration stands after a step that makes or that leaves it. -/
theorem registeredOver_snoc
    {step : CoordinatorStep}
    {socket : Socket}
    {worker : WorkerId}
    {boot : WorkerBootId} :
    RegisteredOver (trace ++ [step]) socket worker boot ↔
      registers step socket worker boot = true ∨
      (RegisteredOver trace socket worker boot ∧
        detaches step socket worker = false) :=
  standsIn_snoc

/-- Neither a registration nor the end of a connection. -/
private theorem SocketsTracked.list
    {before after : Coordinator}
    {event : Event}
    {outputs : List Action}
    (tracked : SocketsTracked trace before.registry)
    (sameSockets :
      after.registry.socketToWorker = before.registry.socketToWorker)
    (sameFenced : after.registry.fenced = before.registry.fenced)
    (sameLives :
      ∀ wanted : WorkerId,
        (after.registry.workers[wanted]?.map fun info =>
          (info.alive, info.sock, info.boot)) =
        before.registry.workers[wanted]?.map fun info =>
          (info.alive, info.sock, info.boot))
    (unregistered :
      ∀ socket worker boot,
        registers ⟨before, event, outputs, after⟩ socket worker boot = false)
    (undetached :
      ∀ socket worker boot,
        before.registry.LiveOver socket worker boot →
        detaches ⟨before, event, outputs, after⟩ socket worker = false) :
    SocketsTracked (trace ++ [⟨before, event, outputs, after⟩])
      after.registry := by
  refine ⟨tracked.kept.list sameSockets sameFenced sameLives, ?_⟩
  intro socket worker boot
  rw [registeredOver_snoc, unregistered, tracked.live,
    Registry.liveOver_of_lives sameLives]
  constructor
  · rintro (absent | ⟨live, _⟩)
    · cases absent
    · exact live
  · intro live
    exact .inr ⟨live, undetached socket worker boot live⟩

private theorem SocketsTracked.enrolled
    {before after : Coordinator}
    {event : Event}
    {outputs : List Action}
    (tracked : SocketsTracked trace before.registry)
    {socket : Socket}
    {worker : WorkerId}
    {boot : WorkerBootId}
    {name : Text}
    (caused :
      before.registry.effect event = .enrolled socket worker boot name)
    (notEnd : ∀ ended, event ≠ .disconnect ended)
    (keeps : before.registry.keepsSockets event = true)
    (sameRegistry :
      after.registry = before.registry.enroll socket worker boot name) :
    SocketsTracked (trace ++ [⟨before, event, outputs, after⟩])
      after.registry := by
  rw [sameRegistry]
  refine ⟨tracked.kept.enroll caused keeps, ?_⟩
  intro carrier wanted wantedBoot
  have detached :
      detaches ⟨before, event, outputs, after⟩ carrier wanted =
        (decide (socket ≠ carrier) && decide (worker = wanted)) := by
    simp only [detaches, caused]
  rw [registeredOver_snoc, Registry.liveOver_enroll, tracked.live, detached]
  simp only [registers, caused, Bool.and_eq_true, decide_eq_true_eq,
    Bool.and_eq_false_imp, decide_eq_false_iff_not]
  split_ifs with same
  · subst same
    constructor
    · rintro (⟨⟨sameSocket, _⟩, sameBoot⟩ | ⟨live, notMoved⟩)
      · exact ⟨sameSocket, sameBoot⟩
      · have sameSocket : socket = carrier := by
          by_contra moved
          exact notMoved moved rfl
        subst sameSocket
        exact ⟨rfl,
          (Registry.eq_of_displaced tracked.kept caused keeps live).2.symm⟩
    · rintro ⟨sameSocket, sameBoot⟩
      exact .inl ⟨⟨sameSocket, rfl⟩, sameBoot⟩
  · simp [same]

private theorem SocketsTracked.disconnected
    {before after : Coordinator}
    {outputs : List Action}
    (tracked : SocketsTracked trace before.registry)
    {socket : Socket}
    {worker : WorkerId}
    (registered : before.registry.socketToWorker[socket]? = some worker)
    (keeps : before.registry.keepsSockets (.disconnect socket) = true)
    (sameRegistry :
      after.registry = before.registry.apply (.disconnected socket worker)) :
    SocketsTracked (trace ++ [⟨before, .disconnect socket, outputs, after⟩])
      after.registry := by
  rw [sameRegistry]
  refine ⟨tracked.kept.disconnected registered, ?_⟩
  intro carrier wanted wantedBoot
  change _ ↔ (before.registry.fenceWorker worker).LiveOver carrier wanted
    wantedBoot
  rw [registeredOver_snoc, Registry.liveOver_fenceWorker, tracked.live]
  simp only [registers, detaches, Registry.effect, registered,
    Bool.false_eq_true, false_or, decide_eq_false_iff_not]
  constructor
  · rintro ⟨live, elsewhere⟩
    refine ⟨?_, live⟩
    rintro rfl
    obtain ⟨info, found, alive, sameSocket, _⟩ := live
    simp [Registry.keepsSockets, Registry.effect, registered, found,
      alive] at keeps
    exact elsewhere (keeps.symm.trans sameSocket)
  · rintro ⟨different, live⟩
    refine ⟨live, ?_⟩
    rintro rfl
    have mapped := tracked.kept.mapped _ _ _ live
    rw [registered] at mapped
    cases mapped
    exact different rfl

/--
A step that keeps the sockets keeps track of the connections; a socket that
leads to no worker carries nobody.
-/
theorem SocketsTracked.snoc
    {before after : Coordinator}
    {event : Event}
    {outputs : List Action}
    (tracked : SocketsTracked trace before.registry)
    (stepped : step? config before event = some (after, outputs))
    (keeps : before.registry.keepsSockets event = true) :
    SocketsTracked (trace ++ [⟨before, event, outputs, after⟩])
      after.registry := by
  have sameRegistry := registry_of_step? stepped
  rw [Registry.next_eq_apply] at sameRegistry
  have caused := before.registry.effectOf event
  generalize isEffect : before.registry.effect event = effect
    at caused sameRegistry
  cases caused with
  | enrolled socket message kind admitted =>
      exact tracked.enrolled isEffect (by simp) keeps sameRegistry
  | disconnected socket worker registered =>
      exact tracked.disconnected registered keeps sameRegistry
  | nothing =>
      refine tracked.list (by rw [sameRegistry]; rfl)
        (by rw [sameRegistry]; rfl) (fun _ => by rw [sameRegistry]; rfl)
        (fun _ _ _ => by simp [registers, isEffect]) ?_
      intro socket worker boot live
      have mapped := tracked.kept.mapped _ _ _ live
      simp only [detaches, isEffect]
      cases event with
      | disconnect ended =>
          rw [decide_eq_false_iff_not]
          rintro rfl
          simp [Registry.effect, mapped] at isEffect
      | accept | receive | undecodable | acquire | finish | saveStore => rfl
  | endpointPublished socket message kind authority =>
      exact tracked.list (by rw [sameRegistry]; rfl)
        (by rw [sameRegistry]; rfl)
        (fun _ => by
          rw [sameRegistry]
          exact Registry.lives_listEndpoint _ _ _)
        (fun _ _ _ => by simp [registers, isEffect])
        (fun _ _ _ _ => by simp [detaches, isEffect])
  | linkPublished socket message kind authority =>
      exact tracked.list (by rw [sameRegistry]; rfl)
        (by rw [sameRegistry]; rfl)
        (fun _ => by
          rw [sameRegistry]
          exact Registry.lives_listLink _ _ _)
        (fun _ _ _ => by simp [registers, isEffect])
        (fun _ _ _ _ => by simp [detaches, isEffect])
  | capacityPublished socket message kind
  | congestionPublished socket message kind =>
      exact tracked.list (by rw [sameRegistry]; rfl)
        (by rw [sameRegistry]; rfl) (fun _ => by rw [sameRegistry]; rfl)
        (fun _ _ _ => by simp [registers, isEffect])
        (fun _ _ _ _ => by simp [detaches, isEffect])

/--
In a run that keeps the sockets apart, the registry says what the history says.
-/
theorem socketsTracked_of_run
    (run : ProcessRun config store trace final)
    (keeps :
      ∀ step ∈ trace, step.before.registry.keepsSockets step.event = true) :
    SocketsTracked trace final.registry := by
  refine run.invariant_trace
    (fun trace state => SocketsTracked trace state.registry) ?_ ?_
  · refine ⟨⟨?_, ?_⟩, ?_⟩
    · simp [start, Registry.LiveOver]
    · simp [start]
    · intro socket worker boot
      constructor
      · intro stands
        exact (not_standsIn_nil stands).elim
      · simp [start, Registry.LiveOver]
  · intro earlier before event after outputs _ member tracked stepped
    exact tracked.snoc stepped (keeps _ member)

/-- A socket that leads to no worker fences nobody. -/
private theorem fencesRegistered_unmapped
    {registry : Registry}
    {socket : Socket}
    (tracked : SocketsTracked past registry)
    (unmapped : registry.socketToWorker[socket]? = none) :
    FencesRegistered past socket registry registry := by
  have nobody :
      ∀ worker boot, ¬RegisteredOver past socket worker boot := by
    intro worker boot registered
    have mapped := tracked.kept.mapped _ _ _
      ((tracked.live _ _ _).mp registered)
    rw [unmapped] at mapped
    cases mapped
  refine ⟨?_, ?_, ?_⟩
  · intro worker boot
    simp [nobody]
  · intro worker boot registered
    exact (nobody worker boot registered).elim
  · intro worker _
    exact ⟨rfl, rfl⟩

/--
The worker of the socket is dead already, when nothing is left to take from it,
or live over this socket.
-/
private theorem fencesRegistered_mapped
    {registry : Registry}
    {socket : Socket}
    {worker : WorkerId}
    (tracked : SocketsTracked past registry)
    (fences : registry.Fences)
    (mapped : registry.socketToWorker[socket]? = some worker)
    (keeps : registry.keepsSockets (.disconnect socket) = true) :
    FencesRegistered past socket registry
      (registry.apply (.disconnected socket worker)) := by
  have onlyThis :
      ∀ wanted boot, RegisteredOver past socket wanted boot →
        worker = wanted := by
    intro wanted boot registered
    have alsoMapped := tracked.kept.mapped _ _ _
      ((tracked.live _ _ _).mp registered)
    rw [mapped] at alsoMapped
    exact Option.some.inj alsoMapped
  refine ⟨?_, ?_, ?_⟩
  · intro wanted boot
    change _ ∈ (registry.fenceWorker worker).fenced ↔ _
    rw [Registry.mem_fenced_fenceWorker]
    constructor
    · rintro (wasFenced | ⟨info, found, same⟩)
      · exact .inl wasFenced
      · cases same
        cases alive : info.alive with
        | false => exact .inl (tracked.kept.fenced worker info found alive)
        | true =>
            refine .inr ((tracked.live _ _ _).mpr
              ⟨info, found, alive, ?_, rfl⟩)
            simpa [Registry.keepsSockets, Registry.effect, mapped, found,
              alive] using keeps
    · rintro (wasFenced | registered)
      · exact .inl wasFenced
      · have same := onlyThis wanted boot registered
        subst same
        obtain ⟨info, found, _, _, sameBoot⟩ :=
          (tracked.live _ _ _).mp registered
        exact .inr ⟨info, found, by rw [sameBoot]⟩
  · intro wanted boot registered
    have same := onlyThis wanted boot registered
    subst same
    change (registry.fenceWorker worker).snap.workerBoots[worker]? = none ∧
      ∀ info : WorkerInfo,
        (registry.fenceWorker worker).workers[worker]? = some info →
        info.alive = false
    rw [Registry.getElem?_workerBoots_fenceWorker,
      Registry.getElem?_workers_fenceWorker, if_pos rfl, if_pos rfl]
    refine ⟨rfl, ?_⟩
    intro info found
    obtain ⟨known, _, rfl⟩ := Option.map_eq_some_iff.mp found
    rfl
  · intro wanted unregistered
    change (registry.fenceWorker worker).workers[wanted]? = _ ∧
      (registry.fenceWorker worker).snap.workerBoots[wanted]? = _
    rw [Registry.getElem?_workerBoots_fenceWorker,
      Registry.getElem?_workers_fenceWorker]
    split_ifs with same
    · subst same
      have dead :
          ∀ info : WorkerInfo, registry.workers[worker]? = some info →
            info.alive = false := by
        intro info found
        by_contra alive
        rw [Bool.not_eq_false] at alive
        refine unregistered info.boot ((tracked.live _ _ _).mpr
          ⟨info, found, alive, ?_, rfl⟩)
        simpa [Registry.keepsSockets, Registry.effect, mapped, found,
          alive] using keeps
      constructor
      · cases found : registry.workers[worker]? with
        | none => rfl
        | some info =>
            have isDead := dead info found
            rw [Option.map_some, ← isDead]
      · cases trusted : registry.snap.workerBoots[worker]? with
        | none => rfl
        | some boot =>
            obtain ⟨info, found, alive, _⟩ :=
              (fences.boots worker boot).mp trusted
            rw [dead info found] at alive
            cases alive
    · exact ⟨rfl, rfl⟩

/--
In a run whose steps keep the sockets, the end of a connection fences exactly
the incarnations that were registered over it and not since then replaced by a
registration of the same worker over another connection.
-/
theorem disconnect_fences_registered
    (run : ProcessRun config store trace final)
    (keeps :
      ∀ step ∈ trace, step.before.registry.keepsSockets step.event = true) :
    ∀ past step future socket,
      trace = past ++ step :: future →
      step.event = .disconnect socket →
      FencesRegistered past socket step.before.registry
        step.after.registry := by
  rintro past step future socket rfl isEnd
  obtain ⟨pastRun, stepped, _⟩ := run.cut
  have tracked := socketsTracked_of_run pastRun fun earlier member =>
    keeps earlier (List.mem_append_left _ member)
  have kept := keeps step (by simp)
  rw [isEnd] at kept stepped
  have sameRegistry := registry_of_step? stepped
  rw [Registry.next_eq_apply] at sameRegistry
  rw [sameRegistry]
  simp only [Registry.effect]
  cases mapped : step.before.registry.socketToWorker[socket]? with
  | none => exact fencesRegistered_unmapped tracked mapped
  | some worker =>
      exact fencesRegistered_mapped tracked (fences_of_run pastRun) mapped
        kept

/-- One worker connects, registers, and its connection ends. -/
theorem ended_connection_fences_its_worker :
    ∃ past middle after outputs,
      ProcessRun defaultConfig none past middle ∧
      step? defaultConfig middle (.disconnect ⟨4⟩) =
        some (after, outputs) ∧
      FencesRegistered past ⟨4⟩ middle.registry after.registry ∧
      (⟨1⟩, ⟨1⟩) ∈ after.registry.fenced := by
  have checked :
      (replay? (step? defaultConfig) (start none)
        (deployment ⟨4⟩ ⟨1⟩)).any
        (fun reached =>
          (reached.1.all fun step =>
            step.before.registry.keepsSockets step.event) &&
          reached.2.registry.keepsSockets (.disconnect ⟨4⟩) &&
          (step? defaultConfig reached.2 (.disconnect ⟨4⟩)).any
            fun ended => (⟨1⟩, ⟨1⟩) ∈ ended.1.registry.fenced) = true := by
    decide +kernel
  obtain ⟨past, middle, reached, holds⟩ := exists_run_of_replay? checked
  simp only [Bool.and_eq_true, List.all_eq_true] at holds
  obtain ⟨⟨pastKeeps, keeps⟩, ends⟩ := holds
  obtain ⟨⟨after, outputs⟩, stepped, isFenced⟩ :=
    (Option.any_eq_true _ _).mp ends
  have fences := disconnect_fences_registered (reached.snoc stepped)
    (by
      intro step member
      rcases List.mem_append.mp member with inPast | isLast
      · exact pastKeeps step inPast
      · rw [List.mem_singleton.mp isLast]
        exact keeps)
    past _ [] ⟨4⟩ rfl rfl
  exact ⟨past, middle, after, outputs, reached, stepped, fences,
    by simpa using isFenced⟩

/--
A worker comes back over a second connection under a new boot.  When its first
connection ends, the new incarnation is the one that is fenced.
-/
theorem old_connection_fences_new_incarnation :
    ∃ past middle after outputs,
      ProcessRun defaultConfig none past middle ∧
      step? defaultConfig middle (.disconnect ⟨4⟩) =
        some (after, outputs) ∧
      RegisteredOver past ⟨5⟩ ⟨1⟩ ⟨2⟩ ∧
      ¬FencesRegistered past ⟨4⟩ middle.registry after.registry := by
  have checked :
      (replay? (step? defaultConfig) (start none)
        [ .accept ⟨4⟩,
          .receive ⟨4⟩ (CoordinatorClient.registerWorker ⟨1⟩ ⟨1⟩ []),
          .accept ⟨5⟩ ]).any
        (fun reached =>
          (step? defaultConfig reached.2
            (.receive ⟨5⟩
              (CoordinatorClient.registerWorker ⟨1⟩ ⟨2⟩ []))).any
            fun registered =>
              (reached.1.all fun step => !registers step ⟨4⟩ ⟨1⟩ ⟨2⟩) &&
              reached.2.registry.admits ⟨1⟩ ⟨2⟩ &&
              (⟨1⟩, ⟨2⟩) ∉ registered.1.registry.fenced &&
              (step? defaultConfig registered.1 (.disconnect ⟨4⟩)).any
                fun ended =>
                  (⟨1⟩, ⟨2⟩) ∈ ended.1.registry.fenced) = true := by
    decide +kernel
  obtain ⟨past, middle, reached, holds⟩ := exists_run_of_replay? checked
  obtain ⟨⟨registered, replies⟩, stepped, holds⟩ :=
    (Option.any_eq_true _ _).mp holds
  simp only [Bool.and_eq_true, List.all_eq_true, Bool.not_eq_true',
    decide_eq_true_eq] at holds
  obtain ⟨⟨⟨never, admitted⟩, notFenced⟩, ends⟩ := holds
  obtain ⟨⟨after, outputs⟩, ended, isFenced⟩ :=
    (Option.any_eq_true _ _).mp ends
  have isEffect :
      middle.registry.effect
          (.receive ⟨5⟩ (CoordinatorClient.registerWorker ⟨1⟩ ⟨2⟩ [])) =
        .enrolled ⟨5⟩ ⟨1⟩ ⟨2⟩ [] := by
    simp [Registry.effect, CoordinatorClient.registerWorker, admitted]
  refine ⟨_, registered, after, outputs, reached.snoc stepped, ended, ?_,
    ?_⟩
  · rw [registeredOver_snoc]
    exact .inl (by simp [registers, isEffect])
  · intro fences
    rcases (fences.fenced ⟨1⟩ ⟨2⟩).mp (by simpa using isFenced) with
      wasFenced | isRegistered
    · exact notFenced wasFenced
    · rw [registeredOver_snoc] at isRegistered
      rcases isRegistered with now | ⟨earlier, _⟩
      · simp [registers, isEffect] at now
      · obtain ⟨step, member, isRegistration⟩ := earlier.exists_observed
        rw [never step member] at isRegistration
        cases isRegistration

end Coordinator

end CommunicationPlanner
