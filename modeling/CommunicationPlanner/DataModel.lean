import CommunicationPlanner.Binary64
import CommunicationPlanner.Enumerations
import Std.Data.ExtTreeMap
import Mathlib.Data.Finset.Basic

namespace CommunicationPlanner

/-!
# The data model

The records of `include/communication_planner/model`, of the planner's
snapshot and of its limits, field by field and with the source's defaults.  A
`std::map` is an extensional ordered map, a `std::set` that is only tested for
membership a finite set, and a `std::vector` a list.
-/

/-- A `double`, by bit pattern. -/
abbrev Double := Binary64

/-- A `std::map` keyed by a linearly ordered type. -/
abbrev Map (Key Value : Type) [LinearOrder Key] :=
  Std.ExtTreeMap Key Value

/-! ## Evidence -/

/-- What an endpoint can do, as its worker reported it. -/
structure Capability where
  generation : CapabilityGeneration := ⟨0⟩
  transports : Finset Transport := ∅
  features : Finset Text := ∅
  provenance : Provenance := .unknown
  computeArch : Vector UInt8 8 := Vector.replicate 8 0

/-- `Capability::supports`: the transport is among those of the endpoint. -/
def Capability.supports
    (capability : Capability)
    (transport : Transport) : Bool :=
  transport ∈ capability.transports

/-- Whether an endpoint or a link works. -/
structure Health where
  generation : HealthGeneration := ⟨0⟩
  healthy : Bool := false
  message : Text := []

/-- How much of a link or of a resource can be used. -/
structure Capacity where
  generation : CapacityGeneration := ⟨0⟩
  usable : BytesPerSecond := ⟨0⟩
  headroom : BytesPerSecond := ⟨0⟩
  provenance : Provenance := .unknown
  deriving DecidableEq

/-- How loaded a link is, and whether it is beyond what it may carry. -/
structure Congestion where
  generation : CongestionGeneration := ⟨0⟩
  load : Double := ⟨0⟩
  penalty : Double := ⟨0⟩
  hardLimitExceeded : Bool := false
  provenance : Provenance := .unknown
  deriving DecidableEq

/-- What is set aside of a resource. -/
structure Reservation where
  resource : ResourceId
  reserved : BytesPerSecond := ⟨0⟩
  provenance : Provenance := .unknown

/-- Where an endpoint is on its node. -/
structure TopologyLocation where
  node : NodeId := ⟨0⟩
  cpuDomain : CpuDomainId := ⟨0⟩
  memoryDomain : MemoryDomainId := ⟨0⟩
  nic : NicId := ⟨0⟩
  device : DeviceId := ⟨0⟩
  pcieRoot : Text := []
  numaDistance : Int32 := 0
  provenance : Provenance := .unknown

/-- A place that data can be at, under the boots of those who published it. -/
structure Endpoint where
  id : EndpointId := ⟨0⟩
  generation : EndpointGeneration := ⟨0⟩
  kind : EndpointKind := .unknown
  node : NodeId := ⟨0⟩
  device : DeviceId := ⟨0⟩
  location : TopologyLocation := {}
  address : Text := []
  protocol : Text := []
  version : Text := []
  name : Text := []
  capability : Capability := {}
  health : Health := {}
  reachable : Bool := false
  ready : Bool := false
  worker : WorkerId := ⟨0⟩
  workerBoot : WorkerBootId := ⟨0⟩
  source : SourceId := ⟨0⟩
  sourceBoot : SourceBootId := ⟨0⟩
  failureDomain : Text := []
  provenance : Provenance := .unknown

/-- A directed connection of two endpoints, under its worker's boot. -/
structure Link where
  id : LinkId := ⟨0⟩
  generation : LinkGeneration := ⟨0⟩
  source : EndpointId := ⟨0⟩
  destination : EndpointId := ⟨0⟩
  kind : LinkKind := .unknown
  transport : Transport := .unknown
  directed : Bool := true
  capacity : BytesPerSecond := ⟨0⟩
  effectiveBandwidth : BytesPerSecond := ⟨0⟩
  latency : DurationNs := ⟨0⟩
  health : Health := {}
  congestion : Congestion := {}
  capacityEvidence : Capacity := {}
  topologyGeneration : TopologyGeneration := ⟨0⟩
  capabilityGeneration : CapabilityGeneration := ⟨0⟩
  failureDomain : Text := []
  workerBoot : WorkerBootId := ⟨0⟩
  provenance : Provenance := .unknown

/-! ## Requests -/

/-- What is to be moved where, and by which means it may be. -/
structure CommunicationRequest where
  id : CommunicationRequestId := ⟨0⟩
  generation : CommunicationRequestGeneration := ⟨0⟩
  shape : RequestShape := .pointToPoint
  source : EndpointId := ⟨0⟩
  destinations : List EndpointId := []
  payloadSize : Bytes := ⟨0⟩
  direction : Direction := .forward
  latencySensitive : Bool := false
  throughputTarget : BytesPerSecond := ⟨0⟩
  requireOrdering : Bool := false
  requireReliability : Bool := false
  allowRetry : Bool := false
  allowStaging : Bool := true
  allowHostStaging : Bool := true
  allowStorageStaging : Bool := false
  allowRelay : Bool := true
  allowMulticast : Bool := false
  allowed : Finset Transport := ∅
  forbidden : Finset Transport := ∅
  requiredFailureDomain : Text := []
  preferredLocality : Text := []
  maxHops : UInt32 := 16
  maxStages : UInt32 := 16
  maxMovementCost : Option Bytes := none
  reservationBinding : Option ResourceId := none
  externalPriority : UInt32 := 0
  policyGeneration : PolicyGeneration := ⟨0⟩
  collectiveShape : CollectiveShape := .unknown
  participants : List EndpointId := []
  collectiveCount : UInt32 := 0
  provenance : Text := []

namespace CommunicationRequest

/-- The shape the planner dispatches on: `allowMulticast` overrides `shape`. -/
def effectiveShape (request : CommunicationRequest) : RequestShape :=
  if request.shape = .multicast ∨ request.allowMulticast then
    .multicast
  else
    request.shape

/-- The reason `validate` rejects a request for, if it does. -/
def rejection (request : CommunicationRequest) : Option Text :=
  if request.id.isNull then
    some (ascii "null request id")
  else if request.generation.isNull then
    some (ascii "null request generation")
  else if request.payloadSize.count = 0 then
    some (ascii "zero payload size")
  else if request.maxHops = 0 ∨ 255 < request.maxHops then
    some (ascii "invalid maxHops")
  else if request.maxStages = 0 ∨ 255 < request.maxStages then
    some (ascii "invalid maxStages")
  else if request.shape = .collective ∧ request.collectiveCount = 0 then
    some (ascii "collective zero participant count")
  else if request.shape = .collective ∧
      2 ^ 20 < request.collectiveCount.toNat then
    some (ascii "collective participant count overflow")
  else if request.shape = .collective ∧
      request.collectiveShape = .unknown then
    some (ascii "collective shape unknown")
  else if request.shape = .collective ∧ request.participants = [] then
    some (ascii "collective empty participants")
  else
    match shapeRejection request with
    | some why => some why
    | none =>
        if ∃ transport ∈ request.allowed, transport ∈ request.forbidden then
          some (ascii "transport in both allowed and forbidden")
        else if Transport.unknown ∈ request.forbidden then
          some (ascii "cannot forbid UNKNOWN transport")
        else
          none
where
  /-- The checks on the destinations, which depend on the shape. -/
  shapeRejection (request : CommunicationRequest) : Option Text :=
    if request.shape = .multicast ∨ request.allowMulticast then
      if request.destinations.length < 2 then
        some (ascii "multicast needs >=2 destinations")
      else if 2 ^ 16 < request.destinations.length then
        some (ascii "multicast fan-out overflow")
      else
        none
    else if request.shape = .pointToPoint ∨ request.shape = .staged then
      if request.source.isNull then
        some (ascii "point-to-point missing source")
      else if request.destinations.length ≠ 1 then
        some (ascii "point-to-point needs exactly one destination")
      else
        none
    else
      none

/-- `CommunicationRequest::validate`. -/
def validate (request : CommunicationRequest) : Bool :=
  request.rejection.isNone

end CommunicationRequest

/-! ## Costs, stages, paths and plans -/

/-- One factor of a cost, with its weight. -/
structure CostComponent where
  factor : CostFactor := .unknown
  weight : Double := ⟨0⟩
  value : Double := ⟨0⟩
  provenance : Provenance := .unknown
  deriving DecidableEq

/-- Finite and not negative, as `CostComponent::isValid` has it. -/
def Double.isValidCost (value : Double) : Bool :=
  !value.less ⟨0⟩ && !value.isNaN && !value.isInf

/-- `CostComponent::isValid`, of the weight and of the value. -/
def CostComponent.isValid (component : CostComponent) : Bool :=
  component.weight.isValidCost && component.value.isValidCost

/-- The factors of a cost and their total. -/
structure CostSummary where
  components : List CostComponent := []
  total : Double := ⟨0⟩
  deriving DecidableEq

/-- One transfer over one link. -/
structure Stage where
  id : StageId := ⟨0⟩
  generation : StageGeneration := ⟨0⟩
  source : EndpointId := ⟨0⟩
  destination : EndpointId := ⟨0⟩
  link : LinkId := ⟨0⟩
  transport : Transport := .unknown
  payload : Bytes := ⟨0⟩
  expectedBandwidth : BytesPerSecond := ⟨0⟩
  expectedLatency : DurationNs := ⟨0⟩
  stagingResource : ResourceId := ⟨0⟩
  requiresAuthority : Bool := false
  provenance : Provenance := .unknown
  description : Text := []
  deriving DecidableEq

/-- A chain of transfers from a source to a destination, with its cost. -/
structure Path where
  id : PathId := ⟨0⟩
  generation : PathGeneration := ⟨0⟩
  source : EndpointId := ⟨0⟩
  destination : EndpointId := ⟨0⟩
  stages : List Stage := []
  totalPayload : Bytes := ⟨0⟩
  cost : CostSummary := {}
  provenance : Provenance := .unknown
  failureDomain : Text := []
  reason : Text := []
  deriving DecidableEq

/-- The paths for a request, and the generations that they were chosen under. -/
structure CommunicationPlan where
  id : CommunicationPlanId := ⟨0⟩
  generation : CommunicationPlanGeneration := ⟨0⟩
  requestId : CommunicationRequestId := ⟨0⟩
  requestGeneration : CommunicationRequestGeneration := ⟨0⟩
  shape : RequestShape := .pointToPoint
  primaryPath : PathId := ⟨0⟩
  fallbackPaths : List PathId := []
  candidatePaths : List Path := []
  orderedStages : List Stage := []
  feasibility : Feasibility := .unknown
  topologyGeneration : TopologyGeneration := ⟨0⟩
  capacityGeneration : CapacityGeneration := ⟨0⟩
  reservationGeneration : ReservationGeneration := ⟨0⟩
  congestionGeneration : CongestionGeneration := ⟨0⟩
  capabilityGeneration : CapabilityGeneration := ⟨0⟩
  healthGeneration : HealthGeneration := ⟨0⟩
  placementGeneration : PlacementGeneration := ⟨0⟩
  authorityGeneration : AuthorityGeneration := ⟨0⟩
  endpointGenerations : List (EndpointId × EndpointGeneration) := []
  linkGenerations : List (LinkId × LinkGeneration) := []
  requiredStagingResources : List ResourceId := []
  requiredResourceClaims : List ResourceId := []
  cost : CostSummary := {}
  explanations : List Text := []
  provenance : Text := []
  revalidationGeneration : RevalidationGeneration := ⟨0⟩
  revalidateBeforeExecute : Bool := true
  handoffRequirement : Text := []
  createdProvenance : Text := []
  multicastDestinations : List EndpointId := []
  collectiveShape : CollectiveShape := .unknown
  collectiveParticipants : List EndpointId := []
  description : Text := []
  deriving DecidableEq

/-! ## Snapshot, candidates and limits -/

/-- What the planner knows of the system, all of it at one time. -/
structure EvidenceSnapshot where
  topologyGeneration : TopologyGeneration := ⟨0⟩
  capacityGeneration : CapacityGeneration := ⟨0⟩
  reservationGeneration : ReservationGeneration := ⟨0⟩
  congestionGeneration : CongestionGeneration := ⟨0⟩
  capabilityGeneration : CapabilityGeneration := ⟨0⟩
  healthGeneration : HealthGeneration := ⟨0⟩
  placementGeneration : PlacementGeneration := ⟨0⟩
  policyGeneration : PolicyGeneration := ⟨0⟩
  endpoints : List Endpoint := []
  links : List Link := []
  reservations : List Reservation := []
  resourceCapacities : List (ResourceId × Capacity) := []
  workerBoots : Map WorkerId WorkerBootId := ∅
  sourceBoots : Map SourceId SourceBootId := ∅
  epoch : CoordinatorEpoch := ⟨0⟩
  authorityGeneration : AuthorityGeneration := ⟨0⟩

/-- A directed link between two endpoints, as one step of a candidate. -/
structure Hop where
  link : LinkId
  source : EndpointId
  target : EndpointId
  deriving DecidableEq

/-- A chain of hops that may become a path. -/
structure CandidatePath where
  source : EndpointId
  destination : EndpointId
  hops : List Hop
  deriving DecidableEq

/-- The limits, without those on the history and on explanations. -/
structure Bounds where
  maxEndpoints : UInt64 := 100000
  maxLinks : UInt64 := 100000
  maxCandidates : UInt64 := 4096
  maxPathDepth : UInt32 := 16
  maxRelayCount : UInt32 := 16
  maxMulticastFanout : UInt32 := 1024
  maxCollectiveParticipants : UInt32 := 65536
  maxFallbacks : UInt64 := 16
  maxStagingPerPlan : UInt64 := 64
  maxPayloadBytes : UInt64 := 2 ^ 34

/-! ## Evidence and requests as the repository's tests build them -/

/-- `mkEndpoint` of the tests: an endpoint in use with one transport. -/
def mkEndpoint
    (id : EndpointId)
    (generation : EndpointGeneration)
    (kind : EndpointKind)
    (transport : Transport) : Endpoint :=
  { id := id
    generation := generation
    kind := kind
    node := ⟨1⟩
    ready := true
    reachable := true
    health := { generation := ⟨1⟩, healthy := true }
    capability :=
      { generation := ⟨1⟩
        transports := {transport}
        provenance := .measured }
    location := { provenance := .measured }
    provenance := .measured }

/-- `mkLink` of the tests: a healthy link with the given capacity. -/
def mkLink
    (id : LinkId)
    (generation : LinkGeneration)
    (source destination : EndpointId)
    (transport : Transport)
    (capacity : UInt64) : Link :=
  { id := id
    generation := generation
    source := source
    destination := destination
    transport := transport
    kind := .composite
    capacity := ⟨capacity⟩
    effectiveBandwidth := ⟨capacity⟩
    latency := ⟨1000⟩
    health := { generation := ⟨1⟩, healthy := true }
    congestion := { generation := ⟨1⟩, provenance := .reported }
    capacityEvidence :=
      { generation := ⟨1⟩
        usable := ⟨capacity⟩
        headroom := ⟨capacity⟩
        provenance := .reported }
    topologyGeneration := ⟨1⟩
    capabilityGeneration := ⟨1⟩
    provenance := .measured }

/-- `mkRequest` of the tests: a transfer between two endpoints. -/
def mkRequest
    (id : CommunicationRequestId)
    (source destination : EndpointId)
    (payload : UInt64) : CommunicationRequest :=
  { id := id
    generation := ⟨1⟩
    source := source
    destinations := [destination]
    payloadSize := ⟨payload⟩ }

end CommunicationPlanner
