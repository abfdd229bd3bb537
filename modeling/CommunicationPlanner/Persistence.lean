import CommunicationPlanner.DataModel
import CommunicationPlanner.CostModel

namespace CommunicationPlanner

open ByteCodec

/-!
# The store

`serializeStore` writes a checksummed frame around the plan records, the
supersessions and the requests of a coordinator; `parseStore` reads it back
with a code and a detail for every way in which it can fail, and then validates
the state it read.  Of a request only part of the fields are written.
-/

/-- Why a store was not accepted. -/
structure PersistError where
  code : PersistErrorCode
  detail : Text
  deriving DecidableEq

/-- A plan was superseded by a newer one. -/
structure SupersessionRecord where
  superseded : CommunicationPlanId
  newer : CommunicationPlanId
  deriving DecidableEq

/-- A plan and the state it was in. -/
structure StoreRecord where
  plan : CommunicationPlan
  state : PlanState := .requested

/-- What a coordinator leaves to the one after it. -/
structure StoreState where
  epoch : CoordinatorEpoch := ⟨0⟩
  plans : List StoreRecord := []
  supersessions : List SupersessionRecord := []
  requests : List CommunicationRequest := []

/-- The first four bytes of a store. -/
def kMagic : UInt32 :=
  0x43504C52

/-- The only version that is read. -/
def kFormatVersion : UInt32 :=
  1

/-- The limit on every count and string length that is read. -/
def kMaxCount : Nat :=
  2 ^ 20

/-- The FNV-1a checksum, in 64 bits that wrap around. -/
def fnv1a (bytes : List UInt8) : UInt64 :=
  bytes.foldl (fun hash byte =>
    (hash ^^^ byte.toUInt64) * 1099511628211) 1469598103934665603

/-! ## Writing -/

/-- A `double` is written by its bits. -/
def writeDouble (value : Double) : Stream :=
  writeU64 value.bits

/-- A four-byte count and then the items. -/
def writeItems (write : α → Stream) (items : List α) : Stream :=
  writeU32 (UInt32.ofNat items.length) ++ items.flatMap write

/-- A cost component, with its two enumerations as bytes. -/
def writeComponent (component : CostComponent) : Stream :=
  [ writeEnum component.factor,
    writeDouble component.weight,
    writeDouble component.value,
    writeEnum component.provenance ].flatten

/-- The components of a cost and its total. -/
def writeCost (cost : CostSummary) : Stream :=
  [ writeItems writeComponent cost.components,
    writeDouble cost.total ].flatten

/-- `writeStage`: all the fields of a stage. -/
def writeStage (stage : Stage) : Stream :=
  [ writeU64 stage.id.value,
    writeU64 stage.generation.value,
    writeU64 stage.source.value,
    writeU64 stage.destination.value,
    writeU64 stage.link.value,
    writeEnum stage.transport,
    writeU64 stage.payload.count,
    writeU64 stage.expectedBandwidth.count,
    writeU64 stage.expectedLatency.count,
    writeU64 stage.stagingResource.value,
    writeBool stage.requiresAuthority,
    writeEnum stage.provenance,
    writeString stage.description ].flatten

/-- `writePath`: all the fields of a path. -/
def writePath (path : Path) : Stream :=
  [ writeU64 path.id.value,
    writeU64 path.generation.value,
    writeU64 path.source.value,
    writeU64 path.destination.value,
    writeU64 path.totalPayload.count,
    writeEnum path.provenance,
    writeItems writeStage path.stages,
    writeCost path.cost,
    writeString path.failureDomain,
    writeString path.reason ].flatten

/-- An identity is written by its value. -/
def writeId (id : Id Tag) : Stream :=
  writeU64 id.value

/-- An endpoint and the generation that a plan is bound to. -/
def writeEndpointBinding (bound : EndpointId × EndpointGeneration) : Stream :=
  [writeU64 bound.1.value, writeU64 bound.2.value].flatten

/-- A link and the generation that a plan is bound to. -/
def writeLinkBinding (bound : LinkId × LinkGeneration) : Stream :=
  [writeU64 bound.1.value, writeU64 bound.2.value].flatten

/-- All the fields of a plan, and its state behind its verdict. -/
def writeRecord (record : StoreRecord) : Stream :=
  let plan := record.plan
  [ writeU64 plan.id.value,
    writeU64 plan.generation.value,
    writeU64 plan.requestId.value,
    writeU64 plan.requestGeneration.value,
    writeEnum plan.shape,
    writeU64 plan.primaryPath.value,
    writeEnum plan.feasibility,
    writeEnum record.state,
    writeItems writePath plan.candidatePaths,
    writeItems writeId plan.fallbackPaths,
    writeItems writeStage plan.orderedStages,
    writeU64 plan.topologyGeneration.value,
    writeU64 plan.capacityGeneration.value,
    writeU64 plan.reservationGeneration.value,
    writeU64 plan.congestionGeneration.value,
    writeU64 plan.capabilityGeneration.value,
    writeU64 plan.healthGeneration.value,
    writeU64 plan.placementGeneration.value,
    writeU64 plan.authorityGeneration.value,
    writeItems writeEndpointBinding plan.endpointGenerations,
    writeItems writeLinkBinding plan.linkGenerations,
    writeItems writeId plan.requiredStagingResources,
    writeItems writeId plan.requiredResourceClaims,
    writeCost plan.cost,
    writeItems writeString plan.explanations,
    writeString plan.provenance,
    writeU64 plan.revalidationGeneration.value,
    writeBool plan.revalidateBeforeExecute,
    writeString plan.handoffRequirement,
    writeItems writeId plan.multicastDestinations,
    writeEnum plan.collectiveShape,
    writeItems writeId plan.collectiveParticipants,
    writeString plan.description,
    writeString plan.createdProvenance ].flatten

/-- The superseded plan and the newer one. -/
def writeSupersession (supersession : SupersessionRecord) : Stream :=
  [ writeU64 supersession.superseded.value,
    writeU64 supersession.newer.value ].flatten

/-- Of a request only these nine fields are written. -/
def writeRequest (request : CommunicationRequest) : Stream :=
  [ writeU64 request.id.value,
    writeU64 request.generation.value,
    writeEnum request.shape,
    writeU64 request.source.value,
    writeU64 request.payloadSize.count,
    writeEnum request.direction,
    writeEnum request.collectiveShape,
    writeU64 request.collectiveCount.toUInt64,
    writeItems writeId request.destinations ].flatten

/-- What the checksum is taken of. -/
def writeBody (state : StoreState) : Stream :=
  [ writeU64 state.epoch.value,
    writeItems writeRecord state.plans,
    writeItems writeSupersession state.supersessions,
    writeItems writeRequest state.requests ].flatten

/-- `serializeStore`: magic, version, checksum, length and body. -/
def serializeStore (state : StoreState) : List UInt8 :=
  let body := writeBody state
  [ writeU32 kMagic,
    writeU32 kFormatVersion,
    writeU64 (fnv1a body),
    writeU64 (UInt64.ofNat body.length),
    body ].flatten

/-! ## Reading values -/

/-- An identity, by its value. -/
def readId : Reader Option (Id Tag) :=
  Id.mk <$> readU64

/-- A generation, by its value. -/
def readGeneration : Reader Option (Generation Tag) :=
  Generation.mk <$> readU64

/-- A `double`, by its bits. -/
def readDouble : Reader Option Double :=
  Binary64.mk <$> readU64

/-- A string of at most `kMaxCount` bytes. -/
def readText : Reader Option Text :=
  readString kMaxCount

/-- A count within the limit and then the items. -/
def readCounted (item : Reader Option α) : Reader Option (List α) := do
  let count ← checked (fun count => count.toNat ≤ kMaxCount) readU32
  readCount item count.toNat

/-- A cost component, with its two enumerations checked. -/
def readComponent : Reader Option CostComponent := do
  let factor ← readEnum
  let weight ← readDouble
  let value ← readDouble
  let provenance ← readEnum
  pure ⟨factor, weight, value, provenance⟩

/-- The components of a cost and its total. -/
def readCost : Reader Option CostSummary := do
  let components ← readCounted readComponent
  let total ← readDouble
  pure ⟨components, total⟩

/-- `readStage`: the fields in the order in which they are written. -/
def readStage : Reader Option Stage := do
  let id ← readId
  let generation ← readGeneration
  let source ← readId
  let destination ← readId
  let link ← readId
  let transport ← readEnum
  let payload ← readU64
  let expectedBandwidth ← readU64
  let expectedLatency ← readU64
  let stagingResource ← readId
  let requiresAuthority ← readBool
  let provenance ← readEnum
  let description ← readText
  pure
    { id, generation, source, destination, link, transport
      payload := ⟨payload⟩
      expectedBandwidth := ⟨expectedBandwidth⟩
      expectedLatency := ⟨expectedLatency⟩
      stagingResource, requiresAuthority, provenance, description }

/-- `readPath`: the fields in the order in which they are written. -/
def readPath : Reader Option Path := do
  let id ← readId
  let generation ← readGeneration
  let source ← readId
  let destination ← readId
  let totalPayload ← readU64
  let provenance ← readEnum
  let stages ← readCounted readStage
  let cost ← readCost
  let failureDomain ← readText
  let reason ← readText
  pure
    { id, generation, source, destination
      totalPayload := ⟨totalPayload⟩
      provenance, stages, cost, failureDomain, reason }

/-! ## Parsing with error codes -/

/-- A reader that fails with a code and a detail. -/
abbrev Parser := Reader (Except PersistError)

/-- The data end before the value does. -/
def truncated (detail : String) : PersistError :=
  ⟨.truncation, ascii detail⟩

/-- The value is there, and is none. -/
def corrupted (detail : String) : PersistError :=
  ⟨.corruption, ascii detail⟩

/-- A count is above the limit. -/
def oversized (detail : String) : PersistError :=
  ⟨.oversizedCount, ascii detail⟩

/-- A byte stands for no constructor. -/
def invalidEnum (detail : String) : PersistError :=
  ⟨.invalidEnum, ascii detail⟩

/-- A byte that must be there and must stand for a constructor. -/
def parseEnum
    [Enumerated α]
    (missing invalid : PersistError) : Parser α := do
  let byte ← orFail missing readU8
  match ofCode byte with
  | some value => pure value
  | none => throw invalid

/-- A count that must be there and within the limit, and then the items. -/
def parseItems
    (missing tooMany : PersistError)
    (item : Parser α) : Parser (List α) := do
  let count ← orFail missing readU32
  if kMaxCount < count.toNat then
    throw tooMany
  else
    readCount item count.toNat

/-- One record; the identities read so far must not contain its own. -/
def parseRecord (seen : List CommunicationPlanId) : Parser StoreRecord := do
  let id ← orFail (truncated "plan id") readId
  if id.isNull then
    throw (corrupted "null plan id")
  else if id ∈ seen then
    throw ⟨.duplicateId, ascii "duplicate plan id"⟩
  else
    let generation ← orFail (truncated "plan gen") readGeneration
    let requestId ← orFail (truncated "request id") readId
    let requestGeneration ← orFail (truncated "request gen") readGeneration
    let shape ← parseEnum (truncated "shape") (invalidEnum "invalid shape")
    let primaryPath ← orFail (truncated "primary") readId
    let feasibility ←
      parseEnum (truncated "feasibility") (invalidEnum "invalid feasibility")
    let state ← parseEnum (truncated "state") (invalidEnum "invalid state")
    let candidatePaths ←
      parseItems (truncated "paths") (oversized "oversized path count")
        (orFail (corrupted "path") readPath)
    let fallbackPaths ←
      parseItems (truncated "fallbacks") (oversized "oversized fallback count")
        (orFail (truncated "fallback") readId)
    let orderedStages ←
      parseItems (truncated "stages") (oversized "oversized stage count")
        (orFail (corrupted "stage") readStage)
    let topologyGeneration ← orFail (truncated "topology") readGeneration
    let capacityGeneration ← orFail (truncated "capacity") readGeneration
    let reservationGeneration ←
      orFail (truncated "reservation") readGeneration
    let congestionGeneration ← orFail (truncated "congestion") readGeneration
    let capabilityGeneration ← orFail (truncated "capability") readGeneration
    let healthGeneration ← orFail (truncated "health") readGeneration
    let placementGeneration ← orFail (truncated "placement") readGeneration
    let authorityGeneration ← orFail (truncated "authority") readGeneration
    let endpointGenerations ←
      parseItems (truncated "endpoint gens")
        (oversized "oversized endpoint gens") do
          let endpoint ← orFail (truncated "eid") readId
          let generation ← orFail (truncated "egen") readGeneration
          pure (endpoint, generation)
    let linkGenerations ←
      parseItems (truncated "link gens") (oversized "oversized link gens") do
          let link ← orFail (truncated "lid") readId
          let generation ← orFail (truncated "lgen") readGeneration
          pure (link, generation)
    let requiredStagingResources ←
      parseItems (truncated "staging resources")
        (oversized "oversized staging resources")
        (orFail (truncated "rid") readId)
    let requiredResourceClaims ←
      parseItems (truncated "claims") (oversized "oversized claims")
        (orFail (truncated "claim") readId)
    let cost ← orFail (corrupted "cost") readCost
    let explanations ←
      parseItems (truncated "explanations") (oversized "oversized explanations")
        (orFail (corrupted "explanation") readText)
    let provenance ← orFail (corrupted "provenance") readText
    let revalidationGeneration ← orFail (truncated "reval gen") readGeneration
    let revalidateBeforeExecute ← orFail (truncated "reval bool") readBool
    let handoffRequirement ← orFail (corrupted "handoff") readText
    let multicastDestinations ←
      parseItems (truncated "multicast dests")
        (oversized "oversized multicast dests")
        (orFail (truncated "mdest") readId)
    let collectiveShape ←
      parseEnum (truncated "collective shape")
        (invalidEnum "invalid collective shape")
    let collectiveParticipants ←
      parseItems (truncated "collective participants")
        (oversized "oversized participants")
        (orFail (truncated "cp") readId)
    let description ← orFail (corrupted "description") readText
    let createdProvenance ← orFail (corrupted "created provenance") readText
    pure
      { plan :=
          { id, generation, requestId, requestGeneration, shape, primaryPath
            feasibility, candidatePaths, fallbackPaths, orderedStages
            topologyGeneration, capacityGeneration, reservationGeneration
            congestionGeneration, capabilityGeneration, healthGeneration
            placementGeneration, authorityGeneration, endpointGenerations
            linkGenerations, requiredStagingResources
            requiredResourceClaims, cost, explanations, provenance
            revalidationGeneration, revalidateBeforeExecute
            handoffRequirement, multicastDestinations, collectiveShape
            collectiveParticipants, description, createdProvenance }
        state := state }

/-- The loop over the records, which remembers the identities it has read. -/
def parseRecords :
    (seen : List CommunicationPlanId) →
    (count : Nat) →
    Parser (List StoreRecord)
  | _, 0 => pure []
  | seen, count + 1 => do
      let record ← parseRecord seen
      let rest ← parseRecords (record.plan.id :: seen) count
      pure (record :: rest)

/-- The superseded plan and the newer one. -/
def parseSupersession : Parser SupersessionRecord := do
  let superseded ← orFail (truncated "sup old") readId
  let newer ← orFail (truncated "sup new") readId
  pure ⟨superseded, newer⟩

/-- The fields of a request that are not stored keep their defaults. -/
def parseRequest : Parser CommunicationRequest := do
  let id ← orFail (truncated "req id") readId
  let generation ← orFail (truncated "req gen") readGeneration
  let shape ← parseEnum (truncated "req shape") (invalidEnum "invalid req shape")
  let source ← orFail (truncated "req source") readId
  let payloadSize ← orFail (truncated "req payload") readU64
  let direction ←
    parseEnum (truncated "req dir") (invalidEnum "invalid direction")
  let collectiveShape ←
    parseEnum (truncated "req cshape") (invalidEnum "invalid collective shape")
  let collectiveCount ← orFail (truncated "req count") readU64
  if 4294967295 < collectiveCount then
    throw ⟨.cpOverflow, ascii "collective count overflow"⟩
  else
    let destinations ←
      parseItems (truncated "req dests") (oversized "oversized req dests")
        (orFail (truncated "req dest") readId)
    pure
      { id, generation, shape, source
        payloadSize := ⟨payloadSize⟩
        direction, collectiveShape
        collectiveCount := collectiveCount.toUInt32
        destinations }

/-- The epoch, and then the three lists. -/
def parseBody : Parser StoreState := do
  let epoch ← orFail (truncated "missing epoch") readGeneration
  let planCount ← orFail (truncated "missing plans") readU32
  if kMaxCount < planCount.toNat then
    throw (oversized "oversized plan count")
  else
    let plans ← parseRecords [] planCount.toNat
    let supersessions ←
      parseItems (truncated "supersessions")
        (oversized "oversized supersessions") parseSupersession
    let requests ←
      parseItems (truncated "requests") (oversized "oversized requests")
        parseRequest
    pure { epoch, plans, supersessions, requests }

/-- The frame around the payload: its checksum and its length. -/
def parseFrame : Parser (UInt64 × UInt64) := do
  let magic ← orFail (truncated "missing magic") readU32
  if magic ≠ kMagic then
    throw ⟨.badMagic, ascii "bad magic"⟩
  else
    let version ← orFail (truncated "missing version") readU32
    if version ≠ kFormatVersion then
      throw ⟨.unsupportedVersion, ascii "unsupported version"⟩
    else
      let sum ← orFail (truncated "missing checksum") readU64
      let length ← orFail (truncated "missing payload length") readU64
      pure (sum, length)

/-! ## Validation -/

/--
Follow the stages of a path: the end of the chain, or what is wrong with it.
-/
def walkStages :
    (prev : EndpointId) →
    (seen : List EndpointId) →
    List Stage →
    Except PersistError EndpointId
  | prev, _, [] => .ok prev
  | prev, seen, stage :: rest =>
      if stage.source ≠ prev then
        .error ⟨.invalidStageOrder, ascii "stage order broken"⟩
      else if stage.source = stage.destination then
        .error ⟨.cycleForbidden, ascii "self stage cycle"⟩
      else if stage.destination ∈ seen then
        .error ⟨.cycleForbidden, ascii "endpoint revisit cycle"⟩
      else
        walkStages stage.destination (stage.destination :: seen) rest

/-- The checks of one candidate path, identities apart. -/
def pathRejection
    (plan : CommunicationPlan)
    (path : Path) : Option PersistError :=
  if path.stages.any fun stage =>
      stage.payload.count ≠ path.totalPayload.count then
    some ⟨.payloadMismatch, ascii "stage payload mismatch"⟩
  else
    match walkStages path.source [] path.stages with
    | .error error => some error
    | .ok reached =>
        if path.stages ≠ [] ∧ reached ≠ path.destination then
          some ⟨.pathMissingEndpoint,
            ascii "path chain does not reach destination"⟩
        else
          let bound := plan.endpointGenerations.map Prod.fst
          if path.stages.any fun stage =>
              stage.source ∉ bound || stage.destination ∉ bound then
            some ⟨.pathMissingEndpoint, ascii "stage endpoint not bound"⟩
          else
            none

/-- The loop over the candidate paths, which remembers their identities. -/
def pathsRejection
    (plan : CommunicationPlan) :
    (seen : List PathId) →
    List Path →
    Option PersistError
  | _, [] => none
  | seen, path :: rest =>
      if path.id ∈ seen then
        some ⟨.duplicateId, ascii "duplicate path id"⟩
      else
        match pathRejection plan path with
        | some error => some error
        | none => pathsRejection plan (path.id :: seen) rest

/-- The checks of one record, its identity apart. -/
def recordRejection (record : StoreRecord) : Option PersistError :=
  let plan := record.plan
  if !plan.cost.totalValid then
    some ⟨.nanInfCost, ascii "cost total NaN/Inf"⟩
  else if plan.cost.components.any fun component => !component.isValid then
    some ⟨.nanInfCost, ascii "cost component NaN/Inf"⟩
  else
    match pathsRejection plan [] plan.candidatePaths with
    | some error => some error
    | none =>
        if (plan.candidatePaths.all fun path => path.id ≠ plan.primaryPath) ∧
            !plan.primaryPath.isNull then
          some ⟨.selectedPlanNotInCandidateSet,
            ascii "primary path not in candidate path set"⟩
        else if record.state ∈
              [PlanState.committed, .awaitingExecution, .active] ∧
            plan.requiredResourceClaims = [] then
          some ⟨.committedPlanNoEvidence,
            ascii "committed plan lacks resource commitment evidence"⟩
        else
          none

/-- The loop over the records, which remembers their identities. -/
def recordsRejection :
    (seen : List CommunicationPlanId) →
    List StoreRecord →
    Option PersistError
  | _, [] => none
  | seen, record :: rest =>
      if record.plan.id ∈ seen then
        some ⟨.duplicateId, ascii "duplicate plan id"⟩
      else
        match recordRejection record with
        | some error => some error
        | none => recordsRejection (record.plan.id :: seen) rest

/--
`validateStore`: the first thing that is wrong with the state, if anything is.
-/
def validateStore (state : StoreState) : Option PersistError :=
  match recordsRejection [] state.plans with
  | some error => some error
  | none =>
      if (state.requests.map fun request => request.id).Nodup then
        none
      else
        some ⟨.duplicateId, ascii "duplicate request id"⟩

/-- `parseStore`: the frame, the checksum, the body, and what it says. -/
def parseStore (data : List UInt8) : Except PersistError StoreState := do
  let ((sum, length), rest) ← parseFrame.run data
  if rest.length < length.toNat then
    throw (truncated "payload length exceeds buffer")
  else
    let payload := rest.take length.toNat
    if fnv1a payload ≠ sum then
      throw ⟨.checksumMismatch, ascii "checksum mismatch"⟩
    else
      let (state, unread) ← parseBody.run payload
      if unread ≠ [] then
        throw ⟨.trailingGarbage, ascii "trailing garbage in payload"⟩
      else if rest.length ≠ length.toNat then
        throw ⟨.trailingGarbage, ascii "trailing bytes after frame"⟩
      else
        match validateStore state with
        | some error => throw error
        | none => pure state

/-! ## Recovery -/

/-- The states that recovery does not trust. -/
def recoveredState : PlanState → PlanState
  | .planReady | .awaitingResourceCommit | .committed | .awaitingExecution
  | .active => .revalidationRequired
  | state => state

/-- `conservativeRecovery`: no plan is trusted to be executable any more. -/
def conservativeRecovery (state : StoreState) : StoreState :=
  { state with
    plans := state.plans.map fun record =>
      { record with state := recoveredState record.state } }

end CommunicationPlanner
