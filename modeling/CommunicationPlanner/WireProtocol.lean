import CommunicationPlanner.Messages
import CommunicationPlanner.Persistence

namespace CommunicationPlanner

open ByteCodec

/-!
# The wire protocol

A message travels as the payload of a frame: a magic number, a version, the type
of the message, the length of the payload, the payload, and a checksum of all of
it.  Which fields are written depends on the type; a decoder starts from a fresh
record, and the fields that do not travel keep their defaults.  The classes that
read and write integers, strings and enumerations are those of the store.

An error is its detail, and success is the absence of one.
-/

/-- What `encodeFrame` puts on the wire. -/
structure Frame where
  type : MessageType := .hello
  payload : List UInt8 := []

/-- The first four bytes of a frame. -/
def kFrameMagic : UInt32 :=
  0x43504600

/-- The only version that is read. -/
def kFrameVersion : UInt32 :=
  1

/-- The limit on the payload, and in `recvFrame` on the whole frame. -/
def kMaxFramePayload : Nat :=
  64 * 1024 * 1024

/-! ## Sets of transports -/

/-- The elements of a `std::set`, in the order of the enumeration. -/
def transportList (transports : Finset Transport) : List Transport :=
  (Enumerated.all : List Transport).filter fun transport =>
    transport ∈ transports

/-- A count and the codes of the transports. -/
def encTransports (transports : Finset Transport) : Stream :=
  writeItems writeEnum (transportList transports)

/-- At most 64 codes are read; each is inserted. -/
def decTransports : Reader Option (Finset Transport) := do
  let count ← checked (fun count => count.toNat ≤ 64) readU32
  let transports ← readCount readEnum count.toNat
  pure transports.toFinset

/-! ## Endpoints -/

/-- Copy at most seven characters and terminate them; the rest stays. -/
def Endpoint.setArch (endpoint : Endpoint) (arch : Text) : Endpoint :=
  let count := min arch.length 7
  { endpoint with
    capability :=
      { endpoint.capability with
        computeArch :=
          Vector.ofFn fun index =>
            if index.val < count then arch.getD index.val 0
            else if index.val = count then 0
            else endpoint.capability.computeArch[index] } }

/-- A distance that is not positive is written as zero. -/
def encNumaDistance (distance : Int32) : UInt64 :=
  if 0 < distance then UInt64.ofNat distance.toInt.toNat else 0

/-- `encEndpoint`: the fields of an endpoint that travel. -/
def encEndpoint (endpoint : Endpoint) : Stream :=
  [ writeU64 endpoint.id.value,
    writeU64 endpoint.generation.value,
    writeEnum endpoint.kind,
    writeU64 endpoint.node.value,
    writeU64 endpoint.device.value,
    writeU64 endpoint.capability.generation.value,
    encTransports endpoint.capability.transports,
    writeEnum endpoint.capability.provenance,
    endpoint.capability.computeArch.toList,
    writeString endpoint.address,
    writeString endpoint.protocol,
    writeString endpoint.version,
    writeString endpoint.name,
    writeBool endpoint.health.healthy,
    writeBool endpoint.reachable,
    writeBool endpoint.ready,
    writeU64 endpoint.worker.value,
    writeU64 endpoint.workerBoot.value,
    writeU64 endpoint.source.value,
    writeU64 endpoint.sourceBoot.value,
    writeString endpoint.failureDomain,
    writeEnum endpoint.provenance,
    writeString endpoint.location.pcieRoot,
    writeU64 (encNumaDistance endpoint.location.numaDistance) ].flatten

/-- `decEndpoint`: what does not travel keeps its default. -/
def decEndpoint : Reader Option Endpoint := do
  let id ← readId
  let generation ← readGeneration
  let kind ← readEnum
  let node ← readId
  let device ← readId
  let capabilityGeneration ← readGeneration
  let transports ← decTransports
  let capabilityProvenance ← readEnum
  let arch ← readBytes 8
  let address ← readText
  let protocol ← readText
  let version ← readText
  let name ← readText
  let healthy ← readBool
  let reachable ← readBool
  let ready ← readBool
  let worker ← readId
  let workerBoot ← readGeneration
  let source ← readId
  let sourceBoot ← readGeneration
  let failureDomain ← readText
  let provenance ← readEnum
  let pcieRoot ← readText
  let numaDistance ← readU64
  let endpoint : Endpoint :=
    { id, generation, kind, node, device
      location :=
        { pcieRoot, numaDistance := numaDistance.toUInt32.toInt32 }
      address, protocol, version, name
      capability :=
        { generation := capabilityGeneration
          transports
          provenance := capabilityProvenance }
      health := { healthy }
      reachable, ready, worker, workerBoot, source, sourceBoot
      failureDomain, provenance }
  pure (endpoint.setArch arch)

/-! ## Links -/

/-- `encLink`: the fields of a link that travel. -/
def encLink (link : Link) : Stream :=
  [ writeU64 link.id.value,
    writeU64 link.generation.value,
    writeU64 link.source.value,
    writeU64 link.destination.value,
    writeEnum link.kind,
    writeEnum link.transport,
    writeBool link.directed,
    writeU64 link.capacity.count,
    writeU64 link.effectiveBandwidth.count,
    writeU64 link.latency.count,
    writeBool link.health.healthy,
    writeU64 link.congestion.generation.value,
    writeDouble link.congestion.load,
    writeDouble link.congestion.penalty,
    writeBool link.congestion.hardLimitExceeded,
    writeEnum link.congestion.provenance,
    writeU64 link.capacityEvidence.generation.value,
    writeU64 link.capacityEvidence.usable.count,
    writeU64 link.capacityEvidence.headroom.count,
    writeEnum link.capacityEvidence.provenance,
    writeU64 link.topologyGeneration.value,
    writeU64 link.capabilityGeneration.value,
    writeString link.failureDomain,
    writeU64 link.workerBoot.value,
    writeEnum link.provenance ].flatten

/-- `decLink`: what does not travel keeps its default. -/
def decLink : Reader Option Link := do
  let id ← readId
  let generation ← readGeneration
  let source ← readId
  let destination ← readId
  let kind ← readEnum
  let transport ← readEnum
  let directed ← readBool
  let capacity ← readU64
  let effectiveBandwidth ← readU64
  let latency ← readU64
  let healthy ← readBool
  let congestionGeneration ← readGeneration
  let load ← readDouble
  let penalty ← readDouble
  let hardLimitExceeded ← readBool
  let congestionProvenance ← readEnum
  let capacityGeneration ← readGeneration
  let usable ← readU64
  let headroom ← readU64
  let capacityProvenance ← readEnum
  let topologyGeneration ← readGeneration
  let capabilityGeneration ← readGeneration
  let failureDomain ← readText
  let workerBoot ← readGeneration
  let provenance ← readEnum
  pure
    { id, generation, source, destination, kind, transport, directed
      capacity := ⟨capacity⟩
      effectiveBandwidth := ⟨effectiveBandwidth⟩
      latency := ⟨latency⟩
      health := { healthy }
      congestion :=
        { generation := congestionGeneration
          load, penalty, hardLimitExceeded
          provenance := congestionProvenance }
      capacityEvidence :=
        { generation := capacityGeneration
          usable := ⟨usable⟩
          headroom := ⟨headroom⟩
          provenance := capacityProvenance }
      topologyGeneration, capabilityGeneration, failureDomain, workerBoot
      provenance }

/-! ## Requests -/

/-- `encRequest`: the fields of a request that travel. -/
def encRequest (request : CommunicationRequest) : Stream :=
  [ writeU64 request.id.value,
    writeU64 request.generation.value,
    writeEnum request.shape,
    writeU64 request.source.value,
    writeU64 request.payloadSize.count,
    writeEnum request.direction,
    writeBool request.allowStaging,
    writeBool request.allowHostStaging,
    writeBool request.allowStorageStaging,
    writeBool request.allowRelay,
    writeBool request.allowMulticast,
    writeU32 request.maxHops,
    writeU32 request.maxStages,
    writeU64 request.externalPriority.toUInt64,
    writeU64 request.policyGeneration.value,
    encTransports request.allowed,
    encTransports request.forbidden,
    writeEnum request.collectiveShape,
    writeU64 request.collectiveCount.toUInt64,
    writeItems writeId request.destinations,
    writeItems writeId request.participants,
    writeString request.provenance,
    writeString request.requiredFailureDomain,
    writeString request.preferredLocality ].flatten

/-- `decRequest`: what does not travel keeps its default. -/
def decRequest : Reader Option CommunicationRequest := do
  let id ← readId
  let generation ← readGeneration
  let shape ← readEnum
  let source ← readId
  let payloadSize ← readU64
  let direction ← readEnum
  let allowStaging ← readBool
  let allowHostStaging ← readBool
  let allowStorageStaging ← readBool
  let allowRelay ← readBool
  let allowMulticast ← readBool
  let maxHops ← readU32
  let maxStages ← readU32
  let externalPriority ← readU64
  let policyGeneration ← readGeneration
  let allowed ← decTransports
  let forbidden ← decTransports
  let collectiveShape ← readEnum
  let collectiveCount ← checked (fun count => count ≤ 4294967295) readU64
  let destinations ← readCounted readId
  let participants ← readCounted readId
  let provenance ← readText
  let requiredFailureDomain ← readText
  let preferredLocality ← readText
  pure
    { id, generation, shape, source
      payloadSize := ⟨payloadSize⟩
      direction, allowStaging, allowHostStaging, allowStorageStaging
      allowRelay, allowMulticast, maxHops, maxStages
      externalPriority := externalPriority.toUInt32
      policyGeneration, allowed, forbidden, collectiveShape
      collectiveCount := collectiveCount.toUInt32
      destinations, participants, provenance, requiredFailureDomain
      preferredLocality }

/-! ## Plan results -/

/-- Of a stage only these four fields travel. -/
def encStage (stage : Stage) : Stream :=
  [ writeU64 stage.link.value,
    writeU64 stage.source.value,
    writeU64 stage.destination.value,
    writeU64 stage.payload.count ].flatten

/-- Of a path its identity, its payload and its stages travel. -/
def encPath (path : Path) : Stream :=
  [ writeU64 path.id.value,
    writeU64 path.totalPayload.count,
    writeItems encStage path.stages ].flatten

/-- The fields of a plan that a `PLAN_RESULT` brings. -/
def encPlan (plan : CommunicationPlan) : Stream :=
  [ writeU64 plan.id.value,
    writeU64 plan.generation.value,
    writeU64 plan.requestId.value,
    writeU64 plan.requestGeneration.value,
    writeU64 plan.primaryPath.value,
    writeItems encPath plan.candidatePaths,
    writeItems encStage plan.orderedStages,
    writeItems writeEndpointBinding plan.endpointGenerations ].flatten

/-- A reader that fails with a detail. -/
abbrev WireParser := Reader (Except Text)

/-- The four fields of a stage, under the detail of the list it is in. -/
def decStage (missing : Text) : WireParser Stage := do
  let link ← orFail missing readId
  let source ← orFail missing readId
  let destination ← orFail missing readId
  let payload ← orFail missing readU64
  pure { link, source, destination, payload := ⟨payload⟩ }

/-- A path of a `PLAN_RESULT`. -/
def decPath : WireParser Path := do
  let id ← orFail (ascii "PR path id") readId
  let totalPayload ← orFail (ascii "PR path payload") readU64
  let stages ←
    itemsOrFail kMaxCount (ascii "PR stages") (ascii "PR stages count")
      (decStage (ascii "PR st"))
  pure { id, totalPayload := ⟨totalPayload⟩, stages }

/-- The plan of a `PLAN_RESULT`. -/
def decPlan : WireParser CommunicationPlan := do
  let id ← orFail (ascii "PR plan id") readId
  let generation ← orFail (ascii "PR plan gen") readGeneration
  let requestId ← orFail (ascii "PR req id") readId
  let requestGeneration ← orFail (ascii "PR req gen") readGeneration
  let primaryPath ← orFail (ascii "PR primary") readId
  let candidatePaths ←
    itemsOrFail kMaxCount (ascii "PR paths") (ascii "PR paths count") decPath
  let orderedStages ←
    itemsOrFail kMaxCount (ascii "PR ordered stages")
      (ascii "PR ordered count") (decStage (ascii "PR os"))
  let endpointGenerations ←
    itemsOrFail kMaxCount (ascii "PR endp gens") (ascii "PR eg count") do
      let id ← orFail (ascii "PR eg") readId
      let generation ← orFail (ascii "PR eg") readGeneration
      pure (id, generation)
  pure
    { id, generation, requestId, requestGeneration, primaryPath
      candidatePaths, orderedStages, endpointGenerations }

/-! ## Messages -/

/-- `encodeMessage`: the fields that a message of its type brings. -/
def encodeMessage (message : Message) : List UInt8 :=
  match message.type with
  | .hello => writeU64 message.epoch.value
  | .register =>
      [ writeU64 message.worker.value,
        writeU64 message.boot.value,
        writeString message.name ].flatten
  | .publishEndpoint =>
      [ writeU64 message.worker.value,
        writeU64 message.boot.value,
        encEndpoint message.endpoint ].flatten
  | .publishLink =>
      [ writeU64 message.worker.value,
        writeU64 message.boot.value,
        encLink message.link ].flatten
  | .publishCapacity =>
      [ writeU64 message.linkId.value,
        writeU64 message.capacity.generation.value,
        writeU64 message.capacity.usable.count,
        writeU64 message.capacity.headroom.count,
        writeEnum message.capacity.provenance ].flatten
  | .publishCongestion =>
      [ writeU64 message.linkId.value,
        writeU64 message.congestion.generation.value,
        writeDouble message.congestion.load,
        writeDouble message.congestion.penalty,
        writeBool message.congestion.hardLimitExceeded,
        writeEnum message.congestion.provenance ].flatten
  | .submitRequest => encRequest message.request
  | .planResult =>
      [ writeBool message.ok,
        writeEnum
          (if message.ok then Feasibility.feasible else .rejectEndpoint),
        if message.ok then encPlan message.plan else [] ].flatten
  | .revalidate | .commitRequest | .executionHandoff | .queryPlan =>
      writeU64 message.planId.value
  | .cancel | .supersede =>
      [ writeU64 message.requestId.value,
        writeU64 message.planId.value ].flatten
  | .commitResult =>
      [ writeBool message.ok,
        writeU64 message.planId.value ].flatten
  | .executionResult =>
      [ writeBool message.ok,
        writeU64 message.planId.value,
        writeU64 message.worker.value,
        writeU64 message.boot.value ].flatten
  | .execute =>
      [ writeU64 message.planId.value,
        writeU64 message.bytes,
        writeU64 message.worker.value,
        writeU64 message.boot.value ].flatten
  | .publishTopology => writeU64 message.endpoint.capability.generation.value
  | .save | .shutdown => []
  | .error => writeString message.error

/--
The fields of a message of the type, in a fresh record.  The verdict of a plan
result is checked to be one, and not used.
-/
def parseMessage (type : MessageType) : WireParser Message :=
  match type with
  | .hello => do
      let epoch ← orFail (ascii "HELLO trunc") readGeneration
      pure { type, epoch }
  | .register => do
      let worker ← orFail (ascii "REG worker") readId
      let boot ← orFail (ascii "REG boot") readGeneration
      let name ← orFail (ascii "REG name") readText
      pure { type, worker, boot, name }
  | .publishEndpoint => do
      let worker ← orFail (ascii "EP worker") readId
      let boot ← orFail (ascii "EP boot") readGeneration
      let endpoint ← orFail (ascii "EP endpoint") decEndpoint
      pure { type, worker, boot, endpoint }
  | .publishLink => do
      let worker ← orFail (ascii "LK worker") readId
      let boot ← orFail (ascii "LK boot") readGeneration
      let link ← orFail (ascii "LK link") decLink
      pure { type, worker, boot, link }
  | .publishCapacity => do
      let linkId ← orFail (ascii "CAP link") readId
      let generation ← orFail (ascii "CAP gen") readGeneration
      let usable ← orFail (ascii "CAP usable") readU64
      let headroom ← orFail (ascii "CAP head") readU64
      let provenance ←
        enumOrFail (ascii "CAP prov") (ascii "CAP prov enum")
      pure
        { type, linkId
          capacity :=
            { generation, usable := ⟨usable⟩, headroom := ⟨headroom⟩
              provenance } }
  | .publishCongestion => do
      let linkId ← orFail (ascii "COG link") readId
      let generation ← orFail (ascii "COG gen") readGeneration
      let load ← orFail (ascii "COG load") readDouble
      let penalty ← orFail (ascii "COG pen") readDouble
      let hardLimitExceeded ← orFail (ascii "COG hard") readBool
      let provenance ←
        enumOrFail (ascii "COG prov") (ascii "COG prov enum")
      pure
        { type, linkId
          congestion :=
            { generation, load, penalty, hardLimitExceeded, provenance } }
  | .submitRequest => do
      let request ← orFail (ascii "SUBMIT request") decRequest
      pure { type, request }
  | .planResult => do
      let ok ← orFail (ascii "PR ok") readBool
      let _ : Feasibility ←
        enumOrFail (ascii "PR feas") (ascii "PR feas enum")
      let plan ← if ok then decPlan else pure {}
      pure { type, ok, plan }
  | .revalidate | .commitRequest | .executionHandoff | .queryPlan => do
      let planId ← orFail (ascii "ID") readId
      pure { type, planId }
  | .cancel | .supersede => do
      let requestId ← orFail (ascii "ID") readId
      let planId ← orFail (ascii "ID2") readId
      pure { type, requestId, planId }
  | .commitResult => do
      let ok ← orFail (ascii "RES ok") readBool
      let planId ← orFail (ascii "RES id") readId
      pure { type, ok, planId }
  | .executionResult => do
      let ok ← orFail (ascii "ER ok") readBool
      let planId ← orFail (ascii "ER id") readId
      let worker ← orFail (ascii "ER worker") readId
      let boot ← orFail (ascii "ER boot") readGeneration
      pure { type, ok, planId, worker, boot }
  | .execute => do
      let planId ← orFail (ascii "EX id") readId
      let bytes ← orFail (ascii "EX bytes") readU64
      let worker ← orFail (ascii "EX worker") readId
      let boot ← orFail (ascii "EX boot") readGeneration
      pure { type, planId, bytes, worker, boot }
  | .publishTopology => do
      let generation ← orFail (ascii "TOPO gen") readGeneration
      pure { type, endpoint := { capability := { generation } } }
  | .save | .shutdown => pure { type }
  | .error => do
      let error ← orFail (ascii "ERR") readText
      pure { type, error }

/-- Bytes after the last field are ignored. -/
def decodeMessage
    (type : MessageType)
    (payload : List UInt8) : Except Text Message := do
  let (message, _) ← (parseMessage type).run payload
  pure message

/-! ## Frames -/

/-- What the checksum covers. -/
def frameBody (frame : Frame) : List UInt8 :=
  [ writeU32 kFrameMagic,
    writeU32 kFrameVersion,
    writeEnum frame.type,
    writeU64 (UInt64.ofNat frame.payload.length),
    frame.payload ].flatten

/-- `encodeFrame`: the frame with its checksum, unless it is too large. -/
def encodeFrame (frame : Frame) : Except Text (List UInt8) :=
  if kMaxFramePayload < frame.payload.length then
    throw (ascii "frame payload oversized")
  else
    pure (frameBody frame ++ writeU64 (fnv1a (frameBody frame)))

/-- The type and the length of the payload. -/
def parseFrameHeader : WireParser (MessageType × UInt64) := do
  let magic ← orFail (ascii "frame truncated: magic") readU32
  if magic ≠ kFrameMagic then
    throw (ascii "bad frame magic")
  else
    let version ← orFail (ascii "frame truncated: version") readU32
    if version ≠ kFrameVersion then
      throw (ascii "unsupported frame version")
    else
      let type ←
        enumOrFail (ascii "frame truncated: type") (ascii "invalid frame type")
      let length ← orFail (ascii "frame truncated: length") readU64
      if kMaxFramePayload < length.toNat then
        throw (ascii "frame payload oversized")
      else
        pure (type, length)

/-- Bytes after the checksum are ignored. -/
def decodeFrame (data : List UInt8) : Except Text Frame := do
  let ((type, length), rest) ← parseFrameHeader.run data
  if rest.length < length.toNat + 8 then
    throw (ascii "frame truncated: payload/checksum")
  else
    let covered := data.length - rest.length + length.toNat
    let checksum :=
      UInt64.ofNat (ofLittleEndian ((data.drop covered).take 8))
    if fnv1a (data.take covered) ≠ checksum then
      throw (ascii "frame checksum mismatch")
    else
      pure { type, payload := rest.take length.toNat }

end CommunicationPlanner
