import CommunicationPlanner.StoreRoundTrip
import CommunicationPlanner.WireProtocol
import Mathlib.Data.List.TakeWhile

namespace CommunicationPlanner

open ByteCodec

/-!
# What travels arrives

`transmitted` restricts a message to the fields that its type writes.  Within
the limits of the decoder a message comes out of its own frame as exactly that:
the proofs follow the field lists of the encoders.
-/

/-! ## What travels -/

/-- The fields of an endpoint that travel. -/
def Endpoint.transmitted (endpoint : Endpoint) : Endpoint :=
  { id := endpoint.id
    generation := endpoint.generation
    kind := endpoint.kind
    node := endpoint.node
    device := endpoint.device
    location :=
      { pcieRoot := endpoint.location.pcieRoot
        numaDistance := endpoint.location.numaDistance }
    address := endpoint.address
    protocol := endpoint.protocol
    version := endpoint.version
    name := endpoint.name
    capability :=
      { generation := endpoint.capability.generation
        transports := endpoint.capability.transports
        provenance := endpoint.capability.provenance
        computeArch := endpoint.capability.computeArch }
    health := { healthy := endpoint.health.healthy }
    reachable := endpoint.reachable
    ready := endpoint.ready
    worker := endpoint.worker
    workerBoot := endpoint.workerBoot
    source := endpoint.source
    sourceBoot := endpoint.sourceBoot
    failureDomain := endpoint.failureDomain
    provenance := endpoint.provenance }

/-- The endpoint as it arrives: the setter terminates the name of the arch. -/
def Endpoint.received (endpoint : Endpoint) : Endpoint :=
  endpoint.transmitted.setArch endpoint.capability.computeArch.toList

/-- The fields of a link that travel: all but the rest of its health. -/
def Link.transmitted (link : Link) : Link :=
  { link with health := { healthy := link.health.healthy } }

/-- The fields of a request that travel. -/
def CommunicationRequest.transmitted
    (request : CommunicationRequest) : CommunicationRequest :=
  { id := request.id
    generation := request.generation
    shape := request.shape
    source := request.source
    destinations := request.destinations
    payloadSize := request.payloadSize
    direction := request.direction
    allowStaging := request.allowStaging
    allowHostStaging := request.allowHostStaging
    allowStorageStaging := request.allowStorageStaging
    allowRelay := request.allowRelay
    allowMulticast := request.allowMulticast
    allowed := request.allowed
    forbidden := request.forbidden
    requiredFailureDomain := request.requiredFailureDomain
    preferredLocality := request.preferredLocality
    maxHops := request.maxHops
    maxStages := request.maxStages
    externalPriority := request.externalPriority
    policyGeneration := request.policyGeneration
    collectiveShape := request.collectiveShape
    participants := request.participants
    collectiveCount := request.collectiveCount
    provenance := request.provenance }

/-- Of a stage four fields are transmitted. -/
def Stage.transmitted (stage : Stage) : Stage :=
  { source := stage.source
    destination := stage.destination
    link := stage.link
    payload := stage.payload }

/-- Of a path its identity, its stages and its payload are transmitted. -/
def Path.transmitted (path : Path) : Path :=
  { id := path.id
    stages := path.stages.map Stage.transmitted
    totalPayload := path.totalPayload }

/-- Of a plan so much is transmitted. -/
def CommunicationPlan.transmitted
    (plan : CommunicationPlan) : CommunicationPlan :=
  { id := plan.id
    generation := plan.generation
    requestId := plan.requestId
    requestGeneration := plan.requestGeneration
    primaryPath := plan.primaryPath
    candidatePaths := plan.candidatePaths.map Path.transmitted
    orderedStages := plan.orderedStages.map Stage.transmitted
    endpointGenerations := plan.endpointGenerations }

namespace Message

/-- The fields that the type of the message writes, with the endpoint given. -/
def carrying (message : Message) (endpoint : Endpoint) : Message :=
  let type := message.type
  match message.type with
  | .hello => { type, epoch := message.epoch }
  | .register =>
      { type, worker := message.worker, boot := message.boot
        name := message.name }
  | .publishEndpoint =>
      { type, worker := message.worker, boot := message.boot, endpoint }
  | .publishLink =>
      { type, worker := message.worker, boot := message.boot
        link := message.link.transmitted }
  | .publishCapacity =>
      { type, linkId := message.linkId, capacity := message.capacity }
  | .publishCongestion =>
      { type, linkId := message.linkId, congestion := message.congestion }
  | .submitRequest => { type, request := message.request.transmitted }
  | .planResult =>
      { type, ok := message.ok
        plan := if message.ok then message.plan.transmitted else {} }
  | .revalidate | .commitRequest | .executionHandoff | .queryPlan =>
      { type, planId := message.planId }
  | .cancel | .supersede =>
      { type, requestId := message.requestId, planId := message.planId }
  | .commitResult => { type, ok := message.ok, planId := message.planId }
  | .executionResult =>
      { type, ok := message.ok, planId := message.planId
        worker := message.worker, boot := message.boot }
  | .execute =>
      { type, planId := message.planId, bytes := message.bytes
        worker := message.worker, boot := message.boot }
  | .publishTopology =>
      { type
        endpoint :=
          { capability :=
              { generation := message.endpoint.capability.generation } } }
  | .save | .shutdown => { type }
  | .error => { type, error := message.error }

/-- The message restricted to what its type writes. -/
def transmitted (message : Message) : Message :=
  message.carrying message.endpoint.transmitted

/-- The message as it arrives. -/
def received (message : Message) : Message :=
  message.carrying message.endpoint.received

end Message

/-! ## Limits -/

/-- The strings of an endpoint are short, and its distance is not negative. -/
structure Endpoint.Fits (endpoint : Endpoint) : Prop where
  address : endpoint.address.length ≤ kMaxCount
  protocol : endpoint.protocol.length ≤ kMaxCount
  version : endpoint.version.length ≤ kMaxCount
  name : endpoint.name.length ≤ kMaxCount
  failureDomain : endpoint.failureDomain.length ≤ kMaxCount
  pcieRoot : endpoint.location.pcieRoot.length ≤ kMaxCount
  numaDistance : 0 ≤ endpoint.location.numaDistance

/-- The lists and the string of a request are within the limit. -/
structure CommunicationRequest.Fits (request : CommunicationRequest) : Prop where
  destinations : request.destinations.length ≤ kMaxCount
  participants : request.participants.length ≤ kMaxCount
  provenance : request.provenance.length ≤ kMaxCount
  requiredFailureDomain : request.requiredFailureDomain.length ≤ kMaxCount
  preferredLocality : request.preferredLocality.length ≤ kMaxCount

/-- The lists of a plan that travel are short. -/
structure CommunicationPlan.Transmissible (plan : CommunicationPlan) : Prop where
  candidatePaths : plan.candidatePaths.length ≤ kMaxCount
  stages : ∀ path ∈ plan.candidatePaths, path.stages.length ≤ kMaxCount
  orderedStages : plan.orderedStages.length ≤ kMaxCount
  endpointGenerations : plan.endpointGenerations.length ≤ kMaxCount

/-- The strings and lists that the type of the message writes are short. -/
def Message.Fits (message : Message) : Prop :=
  match message.type with
  | .register => message.name.length ≤ kMaxCount
  | .publishEndpoint => message.endpoint.Fits
  | .publishLink => message.link.failureDomain.length ≤ kMaxCount
  | .submitRequest => message.request.Fits
  | .planResult => message.ok = true → message.plan.Transmissible
  | .error => message.error.length ≤ kMaxCount
  | _ => True

/-! ## Values -/

/-- The list of the transports has them all. -/
theorem mem_transportList
    {transports : Finset Transport}
    {transport : Transport} :
    transport ∈ transportList transports ↔ transport ∈ transports := by
  have known : transport ∈ (Enumerated.all : List Transport) :=
    List.mem_of_getElem? (Enumerated.all_position transport)
  simp [transportList, known]

/-- A set of transports is read back. -/
theorem reads_transports
    (transports : Finset Transport) :
    Reads decTransports (encTransports transports) transports := by
  have few : (transportList transports).length ≤ 13 :=
    List.length_filter_le _ _
  have count :
      (UInt32.ofNat (transportList transports).length).toNat =
        (transportList transports).length :=
    toNat_ofNat_count (few.trans (by decide))
  have accepted :
      decide ((UInt32.ofNat (transportList transports).length).toNat ≤ 64) =
        true := by
    rw [count, decide_eq_true_eq]
    omega
  have inserted : (transportList transports).toFinset = transports := by
    ext transport
    rw [List.mem_toFinset, mem_transportList]
  have combined :
      Reads decTransports
        (writeU32 (UInt32.ofNat (transportList transports).length) ++
          ((transportList transports).flatMap writeEnum ++ []))
        transports := by
    refine ((reads_u32 _).checked accepted).bind ?_
    rw [count]
    refine (Reads.count fun transport _ => reads_enum transport).bind ?_
    rw [inserted]
    exact Reads.pure transports
  simpa [encTransports, writeItems] using combined

/-- A distance that is not negative survives the way through 64 bits. -/
theorem toInt32_encNumaDistance
    {distance : Int32}
    (nonnegative : 0 ≤ distance) :
    (encNumaDistance distance).toUInt32.toInt32 = distance := by
  have isNat : 0 ≤ distance.toInt := by
    simpa [Int32.le_iff_toInt_le] using nonnegative
  have written :
      encNumaDistance distance = UInt64.ofNat distance.toInt.toNat := by
    unfold encNumaDistance
    split_ifs with positive
    · rfl
    · have isZero : distance.toInt = 0 := by
        simp [Int32.lt_iff_toInt_lt] at positive
        omega
      simp [isZero]
  rw [written, UInt64.toUInt32_ofNat', UInt32.toInt32_ofNat',
    ← Int32.ofInt_eq_ofNat, Int.toNat_of_nonneg isNat, Int32.ofInt_toInt]

/-- The endpoint as it is read back: a negative distance becomes zero. -/
def Endpoint.settled (endpoint : Endpoint) : Endpoint :=
  { endpoint with
    location :=
      { endpoint.location with
        numaDistance :=
          if 0 < endpoint.location.numaDistance then
            endpoint.location.numaDistance
          else 0 } }

/-- What is read back is never negative. -/
theorem Endpoint.numaDistance_settled
    (endpoint : Endpoint) :
    0 ≤ endpoint.settled.location.numaDistance := by
  unfold Endpoint.settled
  dsimp only
  split_ifs with positive
  · exact Int32.le_of_lt positive
  · exact Int32.le_refl 0

/-- The encoder takes a negative distance for zero. -/
theorem encEndpoint_settled
    (endpoint : Endpoint) :
    encEndpoint endpoint.settled = encEndpoint endpoint := by
  have same :
      encNumaDistance endpoint.settled.location.numaDistance =
        encNumaDistance endpoint.location.numaDistance := by
    unfold Endpoint.settled encNumaDistance
    dsimp only
    split_ifs with positive
    · rfl
    · contradiction
    · rfl
  unfold encEndpoint
  rw [same]
  rfl

/-- The first seven bytes of an arch and a terminator. -/
def terminated (arch : Text) : Vector UInt8 8 :=
  Vector.ofFn fun index => if index.val < 7 then arch.getD index.val 0 else 0

/-- The setter overwrites all eight bytes when it is given eight. -/
theorem Endpoint.setArch_eq_terminated
    (endpoint : Endpoint)
    {arch : Text}
    (eight : arch.length = 8) :
    endpoint.setArch arch =
      { endpoint with
        capability :=
          { endpoint.capability with computeArch := terminated arch } } := by
  have overwritten :
      (endpoint.setArch arch).capability.computeArch = terminated arch := by
    unfold Endpoint.setArch terminated
    simp only [eight]
    congr 1
    funext index
    by_cases isLast : index.val < 7
    · simp [isLast]
    · have atEnd : index.val = 7 := by omega
      simp [atEnd]
  rw [← overwritten]
  rfl

/-! ## Records -/

/-- An endpoint is read as far as a terminated architecture goes. -/
theorem reads_decEndpoint
    {endpoint : Endpoint}
    (fits : endpoint.Fits) :
    Reads decEndpoint (encEndpoint endpoint) endpoint.received := by
  have arch :
      Reads (readBytes 8) endpoint.capability.computeArch.toList
        endpoint.capability.computeArch.toList := by
    have read := reads_bytes endpoint.capability.computeArch.toList
    rw [Vector.length_toList] at read
    exact read
  refine (reads_id endpoint.id).bind ?_
  refine (reads_generation endpoint.generation).bind ?_
  refine (reads_enum endpoint.kind).bind ?_
  refine (reads_id endpoint.node).bind ?_
  refine (reads_id endpoint.device).bind ?_
  refine (reads_generation endpoint.capability.generation).bind ?_
  refine (reads_transports endpoint.capability.transports).bind ?_
  refine (reads_enum endpoint.capability.provenance).bind ?_
  refine arch.bind ?_
  refine (reads_text fits.address).bind ?_
  refine (reads_text fits.protocol).bind ?_
  refine (reads_text fits.version).bind ?_
  refine (reads_text fits.name).bind ?_
  refine (reads_bool endpoint.health.healthy).bind ?_
  refine (reads_bool endpoint.reachable).bind ?_
  refine (reads_bool endpoint.ready).bind ?_
  refine (reads_id endpoint.worker).bind ?_
  refine (reads_generation endpoint.workerBoot).bind ?_
  refine (reads_id endpoint.source).bind ?_
  refine (reads_generation endpoint.sourceBoot).bind ?_
  refine (reads_text fits.failureDomain).bind ?_
  refine (reads_enum endpoint.provenance).bind ?_
  refine (reads_text fits.pcieRoot).bind ?_
  refine (reads_u64 _).bind ?_
  rw [toInt32_encNumaDistance fits.numaDistance]
  unfold Endpoint.received
  simp only [Endpoint.setArch_eq_terminated _ Vector.length_toList]
  exact Reads.pure _

/-- A link is read as far as it is transmitted. -/
theorem reads_decLink
    {link : Link}
    (short : link.failureDomain.length ≤ kMaxCount) :
    Reads decLink (encLink link) link.transmitted := by
  refine (reads_id link.id).bind ?_
  refine (reads_generation link.generation).bind ?_
  refine (reads_id link.source).bind ?_
  refine (reads_id link.destination).bind ?_
  refine (reads_enum link.kind).bind ?_
  refine (reads_enum link.transport).bind ?_
  refine (reads_bool link.directed).bind ?_
  refine (reads_u64 link.capacity.count).bind ?_
  refine (reads_u64 link.effectiveBandwidth.count).bind ?_
  refine (reads_u64 link.latency.count).bind ?_
  refine (reads_bool link.health.healthy).bind ?_
  refine (reads_generation link.congestion.generation).bind ?_
  refine (reads_double link.congestion.load).bind ?_
  refine (reads_double link.congestion.penalty).bind ?_
  refine (reads_bool link.congestion.hardLimitExceeded).bind ?_
  refine (reads_enum link.congestion.provenance).bind ?_
  refine (reads_generation link.capacityEvidence.generation).bind ?_
  refine (reads_u64 link.capacityEvidence.usable.count).bind ?_
  refine (reads_u64 link.capacityEvidence.headroom.count).bind ?_
  refine (reads_enum link.capacityEvidence.provenance).bind ?_
  refine (reads_generation link.topologyGeneration).bind ?_
  refine (reads_generation link.capabilityGeneration).bind ?_
  refine (reads_text short).bind ?_
  refine (reads_generation link.workerBoot).bind ?_
  refine (reads_enum link.provenance).bind ?_
  exact Reads.pure link.transmitted

/-- A request is read as far as it is transmitted. -/
theorem reads_decRequest
    {request : CommunicationRequest}
    (fits : request.Fits) :
    Reads decRequest (encRequest request) request.transmitted := by
  have ids :
      ∀ ids : List EndpointId, ids.length ≤ kMaxCount →
        Reads (readCounted readId) (writeItems writeId ids) ids := by
    intro ids short
    exact reads_counted short fun id _ => reads_id id
  have bounded :
      decide (request.collectiveCount.toUInt64 ≤ 4294967295) = true := by
    rw [decide_eq_true_eq, UInt64.le_iff_toNat_le, UInt32.toNat_toUInt64]
    have small := request.collectiveCount.toNat_lt
    have limit : (4294967295 : UInt64).toNat = 4294967295 := rfl
    omega
  refine (reads_id request.id).bind ?_
  refine (reads_generation request.generation).bind ?_
  refine (reads_enum request.shape).bind ?_
  refine (reads_id request.source).bind ?_
  refine (reads_u64 request.payloadSize.count).bind ?_
  refine (reads_enum request.direction).bind ?_
  refine (reads_bool request.allowStaging).bind ?_
  refine (reads_bool request.allowHostStaging).bind ?_
  refine (reads_bool request.allowStorageStaging).bind ?_
  refine (reads_bool request.allowRelay).bind ?_
  refine (reads_bool request.allowMulticast).bind ?_
  refine (reads_u32 request.maxHops).bind ?_
  refine (reads_u32 request.maxStages).bind ?_
  refine (reads_u64 request.externalPriority.toUInt64).bind ?_
  refine (reads_generation request.policyGeneration).bind ?_
  refine (reads_transports request.allowed).bind ?_
  refine (reads_transports request.forbidden).bind ?_
  refine (reads_enum request.collectiveShape).bind ?_
  refine ((reads_u64 _).checked bounded).bind ?_
  refine (ids _ fits.destinations).bind ?_
  refine (ids _ fits.participants).bind ?_
  refine (reads_text fits.provenance).bind ?_
  refine (reads_text fits.requiredFailureDomain).bind ?_
  refine (reads_text fits.preferredLocality).bind ?_
  rw [UInt32.toUInt32_toUInt64, UInt32.toUInt32_toUInt64]
  exact Reads.pure request.transmitted

/-- A list of items within the limit, each of which arrives as its image. -/
theorem reads_itemsOrFail
    {α β ε : Type}
    {missing tooMany : ε}
    {item : Reader (Except ε) β}
    {write : α → Stream}
    {image : α → β}
    {items : List α}
    (short : items.length ≤ kMaxCount)
    (everyItem : ∀ value ∈ items, Reads item (write value) (image value)) :
    Reads (itemsOrFail kMaxCount missing tooMany item) (writeItems write items)
      (items.map image) := by
  have count := toNat_ofNat_count short
  refine ((reads_u32 _).orFail missing).bind ?_
  rw [if_neg (by omega), count]
  exact Reads.count_map everyItem

/-- A stage is read as far as it is transmitted. -/
theorem reads_decStage
    (missing : Text)
    (stage : Stage) :
    Reads (decStage missing) (encStage stage) stage.transmitted := by
  refine ((reads_id stage.link).orFail _).bind ?_
  refine ((reads_id stage.source).orFail _).bind ?_
  refine ((reads_id stage.destination).orFail _).bind ?_
  refine ((reads_u64 stage.payload.count).orFail _).bind ?_
  exact Reads.pure stage.transmitted

/-- A path is read as far as it is transmitted. -/
theorem reads_decPath
    {path : Path}
    (short : path.stages.length ≤ kMaxCount) :
    Reads decPath (encPath path) path.transmitted := by
  refine ((reads_id path.id).orFail _).bind ?_
  refine ((reads_u64 path.totalPayload.count).orFail _).bind ?_
  refine (reads_itemsOrFail short fun stage _ =>
    reads_decStage _ stage).bind ?_
  exact Reads.pure path.transmitted

/-- A plan is read as far as it is transmitted. -/
theorem reads_decPlan
    {plan : CommunicationPlan}
    (fits : plan.Transmissible) :
    Reads decPlan (encPlan plan) plan.transmitted := by
  have bindings :
      ∀ bound : EndpointId × EndpointGeneration,
        Reads
          (do
            let id ← orFail (ascii "PR eg") readId
            let generation ← orFail (ascii "PR eg") readGeneration
            pure (id, generation) :
              WireParser (EndpointId × EndpointGeneration))
          (writeEndpointBinding bound) (id bound) := by
    intro bound
    refine ((reads_id bound.1).orFail _).bind ?_
    refine ((reads_generation bound.2).orFail _).bind ?_
    exact Reads.pure bound
  refine ((reads_id plan.id).orFail _).bind ?_
  refine ((reads_generation plan.generation).orFail _).bind ?_
  refine ((reads_id plan.requestId).orFail _).bind ?_
  refine ((reads_generation plan.requestGeneration).orFail _).bind ?_
  refine ((reads_id plan.primaryPath).orFail _).bind ?_
  refine (reads_itemsOrFail fits.candidatePaths fun path member =>
    reads_decPath (fits.stages path member)).bind ?_
  refine (reads_itemsOrFail fits.orderedStages fun stage _ =>
    reads_decStage _ stage).bind ?_
  refine (reads_itemsOrFail fits.endpointGenerations fun bound _ =>
    bindings bound).bind ?_
  rw [List.map_id]
  exact Reads.pure plan.transmitted

/-! ## Messages and frames -/

/-- A message arrives as what its type writes. -/
theorem reads_parseMessage
    {message : Message}
    (fits : message.Fits) :
    Reads (parseMessage message.type) (encodeMessage message)
      message.received := by
  unfold parseMessage encodeMessage Message.received Message.carrying
  unfold Message.Fits at fits
  cases kind : message.type with
  | hello =>
      rw [← List.append_nil (writeU64 _)]
      refine ((reads_generation message.epoch).orFail _).bind ?_
      exact Reads.pure _
  | register =>
      rw [kind] at fits
      refine ((reads_id message.worker).orFail _).bind ?_
      refine ((reads_generation message.boot).orFail _).bind ?_
      refine ((reads_text fits).orFail _).bind ?_
      exact Reads.pure _
  | publishEndpoint =>
      rw [kind] at fits
      refine ((reads_id message.worker).orFail _).bind ?_
      refine ((reads_generation message.boot).orFail _).bind ?_
      refine ((reads_decEndpoint fits).orFail _).bind ?_
      exact Reads.pure _
  | publishLink =>
      rw [kind] at fits
      refine ((reads_id message.worker).orFail _).bind ?_
      refine ((reads_generation message.boot).orFail _).bind ?_
      refine ((reads_decLink fits).orFail _).bind ?_
      exact Reads.pure _
  | publishCapacity =>
      refine ((reads_id message.linkId).orFail _).bind ?_
      refine ((reads_generation message.capacity.generation).orFail _).bind ?_
      refine ((reads_u64 message.capacity.usable.count).orFail _).bind ?_
      refine ((reads_u64 message.capacity.headroom.count).orFail _).bind ?_
      refine (reads_enumOrFail _ _ message.capacity.provenance).bind ?_
      exact Reads.pure _
  | publishCongestion =>
      refine ((reads_id message.linkId).orFail _).bind ?_
      refine
        ((reads_generation message.congestion.generation).orFail _).bind ?_
      refine ((reads_double message.congestion.load).orFail _).bind ?_
      refine ((reads_double message.congestion.penalty).orFail _).bind ?_
      refine
        ((reads_bool message.congestion.hardLimitExceeded).orFail _).bind ?_
      refine (reads_enumOrFail _ _ message.congestion.provenance).bind ?_
      exact Reads.pure _
  | submitRequest =>
      rw [kind] at fits
      rw [← List.append_nil (encRequest _)]
      refine ((reads_decRequest fits).orFail _).bind ?_
      exact Reads.pure _
  | planResult =>
      rw [kind] at fits
      refine ((reads_bool message.ok).orFail _).bind ?_
      refine (reads_enumOrFail _ _ _).bind ?_
      cases answered : message.ok with
      | true =>
          refine (reads_decPlan (fits answered)).bind ?_
          exact Reads.pure _
      | false =>
          refine (Reads.pure _).bind ?_
          exact Reads.pure _
  | revalidate | commitRequest | executionHandoff | queryPlan =>
      rw [← List.append_nil (writeU64 _)]
      refine ((reads_id message.planId).orFail _).bind ?_
      exact Reads.pure _
  | cancel | supersede =>
      refine ((reads_id message.requestId).orFail _).bind ?_
      refine ((reads_id message.planId).orFail _).bind ?_
      exact Reads.pure _
  | commitResult =>
      refine ((reads_bool message.ok).orFail _).bind ?_
      refine ((reads_id message.planId).orFail _).bind ?_
      exact Reads.pure _
  | executionResult =>
      refine ((reads_bool message.ok).orFail _).bind ?_
      refine ((reads_id message.planId).orFail _).bind ?_
      refine ((reads_id message.worker).orFail _).bind ?_
      refine ((reads_generation message.boot).orFail _).bind ?_
      exact Reads.pure _
  | execute =>
      refine ((reads_id message.planId).orFail _).bind ?_
      refine ((reads_u64 message.bytes).orFail _).bind ?_
      refine ((reads_id message.worker).orFail _).bind ?_
      refine ((reads_generation message.boot).orFail _).bind ?_
      exact Reads.pure _
  | publishTopology =>
      rw [← List.append_nil (writeU64 _)]
      refine
        ((reads_generation
          message.endpoint.capability.generation).orFail _).bind ?_
      exact Reads.pure _
  | save | shutdown => exact Reads.pure _
  | error =>
      rw [kind] at fits
      have short : message.error.length ≤ kMaxCount := fits
      rw [← List.append_nil (writeString message.error)]
      refine ((reads_text short).orFail _).bind ?_
      exact Reads.pure _

/-- A message within the limits is decoded as it is received. -/
theorem decodeMessage_encodeMessage
    {message : Message}
    (fits : message.Fits) :
    decodeMessage message.type (encodeMessage message) =
      .ok message.received := by
  unfold decodeMessage
  rw [(reads_parseMessage fits).run_all]
  rfl

/-- What stands before the payload of a frame. -/
def frameHeader (frame : Frame) : List UInt8 :=
  [ writeU32 kFrameMagic,
    writeU32 kFrameVersion,
    writeEnum frame.type,
    writeU64 (UInt64.ofNat frame.payload.length) ].flatten

theorem frameBody_eq
    (frame : Frame) :
    frameBody frame = frameHeader frame ++ frame.payload := by
  simp [frameBody, frameHeader]

/-- The header of a frame has 17 bytes. -/
@[simp] theorem length_frameHeader
    (frame : Frame) :
    (frameHeader frame).length = 17 := by
  simp [frameHeader, writeU32, writeU64, writeEnum, writeU8]

/-- A length within the limit of a frame is written without loss. -/
theorem toNat_ofNat_payload
    {length : Nat}
    (small : length ≤ kMaxFramePayload) :
    (UInt64.ofNat length).toNat = length := by
  rw [UInt64.toNat_ofNat']
  unfold kMaxFramePayload at small
  exact Nat.mod_eq_of_lt (by omega)

/-- The header of a frame is parsed as it was written. -/
theorem reads_parseFrameHeader
    {frame : Frame}
    (small : frame.payload.length ≤ kMaxFramePayload) :
    Reads parseFrameHeader (frameHeader frame)
      (frame.type, UInt64.ofNat frame.payload.length) := by
  have length := toNat_ofNat_payload small
  refine ((reads_u32 kFrameMagic).orFail _).bind ?_
  rw [if_neg (by simp)]
  refine ((reads_u32 kFrameVersion).orFail _).bind ?_
  rw [if_neg (by simp)]
  refine (reads_enumOrFail _ _ frame.type).bind ?_
  refine ((reads_u64 _).orFail _).bind ?_
  rw [if_neg (by omega)]
  exact Reads.pure _

/-- The bytes that `encodeFrame` writes. -/
def Frame.encoded (frame : Frame) : List UInt8 :=
  frameBody frame ++ writeU64 (fnv1a (frameBody frame))

/-- A frame with a small payload is encoded. -/
theorem encodeFrame_eq
    {frame : Frame}
    (small : frame.payload.length ≤ kMaxFramePayload) :
    encodeFrame frame = .ok frame.encoded := by
  unfold encodeFrame
  rw [if_neg (by omega)]
  rfl

@[simp] theorem length_writeU64
    (value : UInt64) :
    (writeU64 value).length = 8 := by
  simp [writeU64]

/-- A frame is 25 bytes longer than its payload. -/
theorem length_encoded
    (frame : Frame) :
    frame.encoded.length = frame.payload.length + 25 := by
  rw [Frame.encoded, List.length_append, length_writeU64, frameBody_eq,
    List.length_append, length_frameHeader]
  omega

/-- An encoded frame is decoded to itself, whatever follows it. -/
theorem decodeFrame_append
    {frame : Frame}
    (small : frame.payload.length ≤ kMaxFramePayload)
    (trailing : List UInt8) :
    decodeFrame (frame.encoded ++ trailing) = .ok frame := by
  have length := toNat_ofNat_payload small
  have header :
      parseFrameHeader.run (frame.encoded ++ trailing) =
        .ok ((frame.type, UInt64.ofNat frame.payload.length),
          frame.payload ++ (writeU64 (fnv1a (frameBody frame)) ++
            trailing)) := by
    have read := reads_parseFrameHeader small
      (frame.payload ++ (writeU64 (fnv1a (frameBody frame)) ++ trailing))
    rw [← List.append_assoc, ← frameBody_eq, ← List.append_assoc] at read
    exact read
  have covered :
      (frame.encoded ++ trailing).length -
            (frame.payload ++ (writeU64 (fnv1a (frameBody frame)) ++
              trailing)).length +
          frame.payload.length =
        (frameBody frame).length := by
    simp only [List.length_append, Frame.encoded, frameBody_eq,
      length_frameHeader]
    omega
  have sum :
      UInt64.ofNat
          (ofLittleEndian (writeU64 (fnv1a (frameBody frame)))) =
        fnv1a (frameBody frame) := by
    unfold writeU64
    rw [ofLittleEndian_littleEndian 8 _ (UInt64.toNat_lt _),
      UInt64.ofNat_toNat]
  unfold decodeFrame
  rw [header]
  simp only [bind, Except.bind, length]
  rw [if_neg (by simp only [List.length_append, length_writeU64]; omega),
    covered, Frame.encoded, List.append_assoc, List.take_left,
    List.drop_left, List.take_left' (length_writeU64 _), sum,
    if_neg (by simp), List.take_left]
  rfl

/-- A frame that can be encoded is decoded to itself. -/
theorem decodeFrame_encodeFrame
    (frame : Frame)
    (small : frame.payload.length ≤ kMaxFramePayload) :
    ∃ bytes,
      encodeFrame frame = .ok bytes ∧
      bytes.length = frame.payload.length + 25 ∧
      decodeFrame bytes = .ok frame := by
  have decoded := decodeFrame_append small []
  rw [List.append_nil] at decoded
  exact ⟨frame.encoded, encodeFrame_eq small, length_encoded frame, decoded⟩

/-! ## The name of an arch -/

/-- The characters before the first terminator. -/
def archText (arch : Vector UInt8 8) : Text :=
  arch.toList.takeWhile fun character => character ≠ 0

/-- A terminated architecture keeps seven bytes. -/
theorem toList_terminated
    (arch : Vector UInt8 8) :
    (terminated arch.toList).toList = arch.toList.take 7 ++ [0] := by
  apply List.ext_getElem
  · simp
  · intro index below _
    have small : index < 8 := by simpa using below
    by_cases early : index < 7
    · simp [terminated, early]
    · have isLast : index = 7 := by omega
      simp [terminated, isLast]

/-- The setter keeps the text of a buffer that has a terminator. -/
theorem archText_terminated
    {arch : Vector UInt8 8}
    (stops : (0 : UInt8) ∈ arch.toList) :
    archText (terminated arch.toList) = archText arch := by
  have split : arch.toList = arch.toList.take 7 ++ arch.toList.drop 7 :=
    (List.take_append_drop 7 _).symm
  unfold archText
  rw [toList_terminated, split, List.take_left' (by simp)]
  by_cases early : (0 : UInt8) ∈ arch.toList.take 7
  · have shorter :
        ((arch.toList.take 7).takeWhile fun character =>
            character ≠ 0).length ≠
          (arch.toList.take 7).length := by
      intro same
      have whole := List.takeWhile_prefix (l := arch.toList.take 7)
        fun character : UInt8 => decide (character ≠ 0)
      have all := List.takeWhile_eq_self_iff.mp (whole.eq_of_length same) 0 early
      simp at all
    rw [List.takeWhile_append, List.takeWhile_append, if_neg shorter,
      if_neg shorter]
  · have before :
        ∀ character ∈ arch.toList.take 7, decide (character ≠ 0) = true := by
      intro character member
      rw [decide_eq_true_eq]
      rintro rfl
      exact early member
    have late : (0 : UInt8) ∈ arch.toList.drop 7 := by
      rw [split, List.mem_append] at stops
      exact stops.resolve_left early
    have last : arch.toList.drop 7 = [0] := by
      have one : (arch.toList.drop 7).length = 1 := by simp
      obtain ⟨character, single⟩ := List.length_eq_one_iff.mp one
      rw [single, List.mem_singleton] at late
      rw [single, late]
    rw [last]

/-- A buffer that ends with a terminator arrives as it is. -/
theorem terminated_of_last
    {arch : Vector UInt8 8}
    (last : arch[7] = 0) :
    terminated arch.toList = arch := by
  apply Vector.ext
  intro index small
  by_cases early : index < 7
  · simp [terminated, early]
  · have isLast : index = 7 := by omega
    subst isLast
    simpa [terminated] using last.symm

/-! ## A message in its frame -/

namespace Message

/-- The message with another arch buffer in its endpoint. -/
def withArch (message : Message) (arch : Vector UInt8 8) : Message :=
  { message with
    endpoint :=
      { message.endpoint with
        capability :=
          { message.endpoint.capability with computeArch := arch } } }

/-- The architecture that the message publishes. -/
def arch (message : Message) : Vector UInt8 8 :=
  message.endpoint.capability.computeArch

/-- Only the arch buffer of an endpoint can differ from what was sent. -/
theorem received_eq_withArch
    (message : Message) :
    message.received = message.transmitted.withArch message.received.arch := by
  have published :
      message.endpoint.received =
        { message.endpoint.transmitted with
          capability :=
            { message.endpoint.transmitted.capability with
              computeArch :=
                message.endpoint.received.capability.computeArch } } := by
    unfold Endpoint.received
    rw [Endpoint.setArch_eq_terminated _ Vector.length_toList]
  unfold received transmitted carrying withArch arch
  cases message.type with
  | publishEndpoint =>
      dsimp only
      rw [← published]
  | _ => rfl

/-- A published architecture is received terminated. -/
theorem arch_received
    {message : Message}
    (published : message.type = .publishEndpoint) :
    message.received.arch =
      terminated message.endpoint.capability.computeArch.toList := by
  unfold received carrying arch
  rw [published]
  simp only [Endpoint.received,
    Endpoint.setArch_eq_terminated _ Vector.length_toList]

/-- A published architecture is transmitted as it is. -/
theorem arch_transmitted
    {message : Message}
    (published : message.type = .publishEndpoint) :
    message.transmitted.arch = message.endpoint.capability.computeArch := by
  unfold transmitted carrying arch
  rw [published]
  rfl

/-- A message without an endpoint arrives without loss. -/
theorem received_eq_transmitted
    {message : Message}
    (other : message.type ≠ .publishEndpoint) :
    message.received = message.transmitted := by
  unfold received transmitted carrying
  cases kind : message.type with
  | publishEndpoint => exact absurd kind other
  | _ => rfl

/-- A message is received under its type. -/
@[simp] theorem type_received
    (message : Message) :
    message.received.type = message.type := by
  unfold received carrying
  cases message.type <;> rfl

/-- A terminated text is received as the same text. -/
theorem archText_received
    {message : Message}
    (stops :
      message.type = .publishEndpoint →
        (0 : UInt8) ∈ message.endpoint.capability.computeArch.toList) :
    archText message.received.arch = archText message.transmitted.arch := by
  by_cases published : message.type = .publishEndpoint
  · rw [arch_received published, arch_transmitted published,
      archText_terminated (stops published)]
  · rw [received_eq_transmitted published]

/-- An architecture with room for its end is received whole. -/
theorem received_of_last
    {message : Message}
    (last :
      message.type = .publishEndpoint →
        message.endpoint.capability.computeArch[7] = 0) :
    message.received = message.transmitted := by
  by_cases published : message.type = .publishEndpoint
  · rw [received_eq_withArch, arch_received published,
      terminated_of_last (last published), ← arch_transmitted published]
    rfl
  · exact received_eq_transmitted published

end Message

/-- A message within the limits comes out of its own frame: its type, and every
field that the type writes.  The bytes of the arch buffer are kept up to its
terminator, and all of them when the last one is a terminator. -/
theorem framed_message_arrives
    {message : Message}
    (fits : message.Fits)
    (stops :
      message.type = .publishEndpoint →
        (0 : UInt8) ∈ message.endpoint.capability.computeArch.toList)
    (small : (encodeMessage message).length ≤ kMaxFramePayload) :
    ∃ bytes frame arrived,
      encodeFrame { type := message.type, payload := encodeMessage message } =
          .ok bytes ∧
        decodeFrame bytes = .ok frame ∧
        decodeMessage frame.type frame.payload = .ok arrived ∧
        arrived.type = message.type ∧
        arrived = message.transmitted.withArch arrived.arch ∧
        archText arrived.arch = archText message.transmitted.arch ∧
        ((message.type = .publishEndpoint →
            message.endpoint.capability.computeArch[7] = 0) →
          arrived = message.transmitted) := by
  obtain ⟨bytes, encoded, _, decoded⟩ :=
    decodeFrame_encodeFrame
      { type := message.type, payload := encodeMessage message } small
  refine ⟨bytes, _, message.received, encoded, decoded, ?_, ?_, ?_, ?_, ?_⟩
  · exact decodeMessage_encodeMessage fits
  · exact message.type_received
  · exact message.received_eq_withArch
  · exact Message.archText_received stops
  · exact Message.received_of_last

/-- An accelerator of the seventh worker. -/
def acceleratorMessage : Message :=
  { type := .publishEndpoint
    worker := ⟨7⟩
    boot := ⟨3⟩
    endpoint :=
      { id := ⟨11⟩
        generation := ⟨1⟩
        kind := .gpuDevice
        name := ascii "gpu0"
        capability :=
          { transports := {.tcp, .gpuPeer}
            computeArch := #v[115, 109, 95, 57, 48, 0, 0, 0] }
        worker := ⟨7⟩
        workerBoot := ⟨3⟩ } }

theorem published_accelerator_arrives :
    ∃ bytes frame,
      encodeFrame
          { type := .publishEndpoint
            payload := encodeMessage acceleratorMessage } =
        .ok bytes ∧
      decodeFrame bytes = .ok frame ∧
      decodeMessage frame.type frame.payload = .ok acceleratorMessage := by
  have fits : acceleratorMessage.Fits := by
    constructor <;> decide
  obtain ⟨bytes, frame, arrived, encoded, decoded, parsed, _, _, _, whole⟩ :=
    framed_message_arrives fits (fun _ => by decide) (by decide +kernel)
  rw [whole fun _ => rfl] at parsed
  exact ⟨bytes, frame, encoded, decoded, parsed⟩

/-- The same accelerator, with a last byte behind the end of its arch. -/
def paddedAcceleratorMessage : Message :=
  { acceleratorMessage with
    endpoint :=
      { acceleratorMessage.endpoint with
        capability :=
          { acceleratorMessage.endpoint.capability with
            computeArch := #v[115, 109, 95, 57, 48, 0, 0, 1] } } }

/-- A last byte of the arch buffer does not arrive behind its terminator. -/
theorem last_byte_behind_terminator_is_lost :
    paddedAcceleratorMessage.Fits ∧
      ∃ bytes frame arrived,
        encodeFrame
            { type := .publishEndpoint
              payload := encodeMessage paddedAcceleratorMessage } =
          .ok bytes ∧
        decodeFrame bytes = .ok frame ∧
        decodeMessage frame.type frame.payload = .ok arrived ∧
        arrived ≠ paddedAcceleratorMessage ∧
        arrived.endpoint.capability.computeArch =
          #v[115, 109, 95, 57, 48, 0, 0, 0] := by
  have fits : paddedAcceleratorMessage.Fits := by
    constructor <;> decide
  obtain ⟨bytes, encoded, _, decoded⟩ :=
    decodeFrame_encodeFrame
      { type := .publishEndpoint
        payload := encodeMessage paddedAcceleratorMessage }
      (by decide +kernel)
  have cut :
      paddedAcceleratorMessage.received.endpoint.capability.computeArch =
        #v[115, 109, 95, 57, 48, 0, 0, 0] := by
    decide +kernel
  refine ⟨fits, bytes, _, _, encoded, decoded, decodeMessage_encodeMessage fits,
    ?_, cut⟩
  intro same
  rw [same] at cut
  exact absurd cut (by decide)

/-! ## Too many paths

The encoder writes the lists of a plan result whatever their length, and the
decoder refuses the lists that are longer than any string may be. -/

/-- Every string and every list of identities is short, travelling or not. -/
structure Message.ShortTexts (message : Message) : Prop where
  name : message.name.length ≤ kMaxCount
  error : message.error.length ≤ kMaxCount
  endpoint : message.endpoint.Fits
  link : message.link.failureDomain.length ≤ kMaxCount
  request : message.request.Fits
  bindings : message.plan.endpointGenerations.length ≤ kMaxCount

/-- The decoder refuses a plan with too many paths. -/
theorem run_decPlan_of_tooManyPaths
    {plan : CommunicationPlan}
    (tooMany : kMaxCount < plan.candidatePaths.length)
    (counted : plan.candidatePaths.length < 2 ^ 32)
    (rest : Stream) :
    decPlan.run (encPlan plan ++ rest) = .error (ascii "PR paths count") := by
  have count :
      (UInt32.ofNat plan.candidatePaths.length).toNat =
        plan.candidatePaths.length := by
    rw [UInt32.toNat_ofNat']
    exact Nat.mod_eq_of_lt counted
  unfold decPlan encPlan
  simp only [List.flatten_cons, List.append_assoc]
  rw [((reads_id plan.id).orFail _).run_bind,
    ((reads_generation plan.generation).orFail _).run_bind,
    ((reads_id plan.requestId).orFail _).run_bind,
    ((reads_generation plan.requestGeneration).orFail _).run_bind,
    ((reads_id plan.primaryPath).orFail _).run_bind]
  unfold writeItems
  rw [StateT.run_bind, List.append_assoc,
    run_itemsOrFail_of_tooMany (by rwa [count])]
  rfl

/-- The decoder refuses a reply with too many paths. -/
theorem decodeMessage_of_tooManyPaths
    {message : Message}
    (answers : message.type = .planResult)
    (planned : message.ok = true)
    (tooMany : kMaxCount < message.plan.candidatePaths.length)
    (counted : message.plan.candidatePaths.length < 2 ^ 32) :
    decodeMessage message.type (encodeMessage message) =
      .error (ascii "PR paths count") := by
  have refused := run_decPlan_of_tooManyPaths tooMany counted []
  unfold decodeMessage parseMessage encodeMessage
  rw [answers, planned]
  simp only [if_true, List.flatten_cons, List.flatten_nil]
  rw [((reads_bool true).orFail _).run_bind,
    (reads_enumOrFail _ _ Feasibility.feasible).run_bind, if_pos rfl,
    StateT.run_bind, refused]
  rfl

/-- A plan result that offers so many blank paths. -/
def pathsMessage (count : Nat) : Message :=
  { type := .planResult
    ok := true
    plan := { candidatePaths := List.replicate count {} } }

theorem length_encodeMessage_paths
    (count : Nat) :
    (encodeMessage (pathsMessage count)).length = 54 + 20 * count := by
  have blank : (encPath {}).length = 20 := by decide
  unfold encodeMessage encPlan pathsMessage
  simp [writeItems, blank, writeU64, writeU32, writeBool, writeU8, writeEnum]
  omega

/-- One path more than the decoder takes. -/
def manyPathsMessage : Message :=
  pathsMessage (kMaxCount + 1)

/-- The encoder accepts the plan result and the decoder does not. -/
theorem oversized_plan_result_is_refused :
    manyPathsMessage.ShortTexts ∧
      (0 : UInt8) ∈
        manyPathsMessage.endpoint.capability.computeArch.toList ∧
      (encodeMessage manyPathsMessage).length ≤ kMaxFramePayload ∧
      ∃ bytes frame,
        encodeFrame
            { type := manyPathsMessage.type
              payload := encodeMessage manyPathsMessage } =
          .ok bytes ∧
        decodeFrame bytes = .ok frame ∧
        decodeMessage frame.type frame.payload =
          .error (ascii "PR paths count") := by
  have offered :
      manyPathsMessage.plan.candidatePaths.length = kMaxCount + 1 :=
    List.length_replicate
  have small :
      (encodeMessage manyPathsMessage).length ≤ kMaxFramePayload := by
    rw [manyPathsMessage, length_encodeMessage_paths]
    decide
  obtain ⟨bytes, encoded, _, decoded⟩ :=
    decodeFrame_encodeFrame
      { type := manyPathsMessage.type
        payload := encodeMessage manyPathsMessage }
      small
  refine ⟨?_, by decide, small, bytes, _, encoded, decoded, ?_⟩
  · constructor
    case endpoint | request => constructor <;> decide
    all_goals decide
  · refine decodeMessage_of_tooManyPaths rfl rfl ?_ ?_
    · rw [offered]
      omega
    · rw [offered]
      decide

end CommunicationPlanner
