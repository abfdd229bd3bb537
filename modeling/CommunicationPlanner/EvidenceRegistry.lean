import CommunicationPlanner.Messages
import CommunicationPlanner.OrderedCollections

namespace CommunicationPlanner

open OrderedCollections

/-!
# The evidence side of the coordinator

Of the members of `CoordinatorServer::Impl` the registry holds those that
workers write: the snapshot, the workers and the sockets they registered over,
and the fenced incarnations.  Each handler returns the registry after it and
the message that answers the sender.
-/

/-- `WorkerInfo`: a worker, its connection, and what it has published. -/
structure WorkerInfo where
  id : WorkerId
  boot : WorkerBootId
  name : Text := []
  sock : Socket := invalidSocket
  endpoints : List EndpointId := []
  links : List LinkId := []
  alive : Bool := true

/-- The evidence, and who may publish it over which connection. -/
structure Registry where
  snap : EvidenceSnapshot := {}
  socketToWorker : Map Socket WorkerId := ∅
  workers : Map WorkerId WorkerInfo := ∅
  fenced : Finset (WorkerId × WorkerBootId) := ∅

namespace Registry

/-- The publisher is a live worker under its registered boot. -/
def authorized
    (registry : Registry)
    (worker : WorkerId)
    (boot : WorkerBootId) : Bool :=
  match registry.workers[worker]? with
  | none => false
  | some info => info.alive && info.boot = boot

/-- The reply to a publication without authority. -/
def stalePublisher : Message :=
  errorMessage (ascii "stale publisher authority")

/-- Record the worker's incarnation, replacing what was known of the worker. -/
def enroll
    (registry : Registry)
    (socket : Socket)
    (worker : WorkerId)
    (boot : WorkerBootId)
    (name : Text) : Registry :=
  { registry with
    workers :=
      registry.workers.insert worker
        { id := worker, boot := boot, name := name, sock := socket }
    socketToWorker := registry.socketToWorker.insert socket worker
    snap :=
      { registry.snap with
        workerBoots := registry.snap.workerBoots.insert worker boot
        sourceBoots :=
          registry.snap.sourceBoots.insert ⟨worker.value⟩ ⟨boot.value⟩ } }

/-- The registration would be accepted. -/
def admits
    (registry : Registry)
    (worker : WorkerId)
    (boot : WorkerBootId) : Bool :=
  !worker.isNull && !boot.isNull && (worker, boot) ∉ registry.fenced

/-- `REGISTER`. -/
def handleRegister
    (registry : Registry)
    (socket : Socket)
    (message : Message) : Registry × Message :=
  if message.worker.isNull || message.boot.isNull then
    (registry, errorMessage (ascii "null worker/boot"))
  else if (message.worker, message.boot) ∈ registry.fenced then
    (registry, errorMessage (ascii "fenced boot authority"))
  else
    (registry.enroll socket message.worker message.boot message.name,
      okMessage message.worker.value)

/-- `publishEndpoint`. -/
def publishEndpoint
    (snapshot : EvidenceSnapshot)
    (endpoint : Endpoint) : EvidenceSnapshot :=
  { snapshot with
    endpoints :=
      replaceOrAppend (fun known => known.id) endpoint snapshot.endpoints }

/-- `publishLink`. -/
def publishLink
    (snapshot : EvidenceSnapshot)
    (link : Link) : EvidenceSnapshot :=
  { snapshot with
    links := replaceOrAppend (fun known => known.id) link snapshot.links
    topologyGeneration := snapshot.topologyGeneration.next }

/-- `PUBLISH_ENDPOINT`: the publisher's incarnation is stamped on the record. -/
def handlePublishEndpoint
    (registry : Registry)
    (message : Message) : Registry × Message :=
  match registry.workers[message.worker]? with
  | none => (registry, stalePublisher)
  | some info =>
      if !info.alive || info.boot ≠ message.boot then
        (registry, stalePublisher)
      else
        let endpoint :=
          { message.endpoint with
            worker := message.worker
            workerBoot := message.boot }
        ({ registry with
            snap := publishEndpoint registry.snap endpoint
            workers :=
              registry.workers.insert message.worker
                { info with endpoints := info.endpoints ++ [endpoint.id] } },
          okMessage endpoint.id.value)

/-- `PUBLISH_LINK`. -/
def handlePublishLink
    (registry : Registry)
    (message : Message) : Registry × Message :=
  match registry.workers[message.worker]? with
  | none => (registry, stalePublisher)
  | some info =>
      if !info.alive || info.boot ≠ message.boot then
        (registry, stalePublisher)
      else
        let link := { message.link with workerBoot := message.boot }
        ({ registry with
            snap := publishLink registry.snap link
            workers :=
              registry.workers.insert message.worker
                { info with links := info.links ++ [link.id] } },
          okMessage link.id.value)

/-- Change the links of one identity. -/
def updateLinks
    (links : List Link)
    (id : LinkId)
    (update : Link → Link) : List Link :=
  links.map fun link => if link.id = id then update link else link

/-- `PUBLISH_CAPACITY`: a null worker needs no authority. -/
def handlePublishCapacity
    (registry : Registry)
    (message : Message) : Registry × Message :=
  if !message.worker.isNull &&
      !registry.authorized message.worker message.boot then
    (registry, stalePublisher)
  else
    ({ registry with
        snap :=
          { registry.snap with
            capacityGeneration := registry.snap.capacityGeneration.next
            links :=
              updateLinks registry.snap.links message.linkId fun link =>
                { link with capacityEvidence := message.capacity } } },
      okMessage message.linkId.value)

/-- `PUBLISH_CONGESTION`: a null worker needs no authority. -/
def handlePublishCongestion
    (registry : Registry)
    (message : Message) : Registry × Message :=
  if !message.worker.isNull &&
      !registry.authorized message.worker message.boot then
    (registry, stalePublisher)
  else
    ({ registry with
        snap :=
          { registry.snap with
            congestionGeneration := registry.snap.congestionGeneration.next
            links :=
              updateLinks registry.snap.links message.linkId fun link =>
                { link with congestion := message.congestion } } },
      okMessage message.linkId.value)

/-- Withdraw the evidence that a worker listed. -/
def withdraw
    (snapshot : EvidenceSnapshot)
    (info : WorkerInfo) : EvidenceSnapshot :=
  { snapshot with
    endpoints := snapshot.endpoints.map fun endpoint =>
      if endpoint.id ∈ info.endpoints then
        { endpoint with reachable := false, ready := false }
      else
        endpoint
    links := snapshot.links.filter fun link => link.id ∉ info.links
    topologyGeneration := snapshot.topologyGeneration.next }

/-- Forget the boots of a worker. -/
def forgetBoots
    (snapshot : EvidenceSnapshot)
    (worker : WorkerId) : EvidenceSnapshot :=
  { snapshot with
    workerBoots := snapshot.workerBoots.erase worker
    sourceBoots := snapshot.sourceBoots.erase ⟨worker.value⟩ }

/-- `fenceWorker`: whatever boot the worker has now is the one that is fenced. -/
def fenceWorker (registry : Registry) (id : WorkerId) : Registry :=
  match registry.workers[id]? with
  | none => { registry with snap := forgetBoots registry.snap id }
  | some info =>
      { registry with
        fenced := insert (id, info.boot) registry.fenced
        workers := registry.workers.insert id { info with alive := false }
        snap := withdraw (forgetBoots registry.snap id) info }

/-- The end of a connection: its worker, if it has one, is fenced. -/
def disconnect (registry : Registry) (socket : Socket) : Registry :=
  match registry.socketToWorker[socket]? with
  | none => registry
  | some worker =>
      { registry.fenceWorker worker with
        socketToWorker := registry.socketToWorker.erase socket }

end Registry

end CommunicationPlanner
