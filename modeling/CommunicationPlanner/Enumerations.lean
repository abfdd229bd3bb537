import CommunicationPlanner.Identifiers
import CommunicationPlanner.ByteCodec

namespace CommunicationPlanner

/-!
# Enumerations of the planner

Each enumeration of the source has its constructors in the source order, since
that order fixes the byte that stands for a value in the store and on the
wire.  The names are those that explanations and descriptions print.
-/

/-- How the value of a piece of evidence was obtained. -/
inductive Provenance where
  | measured
  | reported
  | derived
  | estimated
  | forecast
  | synthetic
  | unknown
  deriving DecidableEq, Repr, Inhabited

/-- What an endpoint is; an unknown kind satisfies no hard constraint. -/
inductive EndpointKind where
  | gpuDevice
  | cpuMemory
  | pinnedHostMemory
  | numaMemory
  | nic
  | storage
  | process
  | service
  | cache
  | checkpoint
  | modelResidency
  | stateLocation
  | unknown
  deriving DecidableEq, Repr, Inhabited

/-- The physical or logical path a link runs over. -/
inductive LinkKind where
  | hostMemoryPath
  | numaPath
  | pciePath
  | gpuHostPath
  | gpuPeerPath
  | nvlinkClassPath
  | nicPath
  | loopbackTcp
  | networkPath
  | storagePath
  | sharedMemoryPath
  | softwareRelay
  | composite
  | unknown
  deriving DecidableEq, Repr, Inhabited

/-- The transport a link uses. -/
inductive Transport where
  | loopbackTcp
  | tcp
  | unixSocket
  | sharedMemory
  | pcie
  | nvlink
  | gpuPeer
  | hostMemory
  | network
  | storage
  | cuda
  | rdma
  | unknown
  deriving DecidableEq, Repr, Inhabited

/-- The communication pattern a request asks for. -/
inductive RequestShape where
  | pointToPoint
  | staged
  | multicast
  | collective
  | unknown
  deriving DecidableEq, Repr, Inhabited

/-- The direction of a requested transfer. -/
inductive Direction where
  | forward
  | reverse
  | bidirectional
  deriving DecidableEq, Repr, Inhabited

/-- The collective operation of a collective request. -/
inductive CollectiveShape where
  | allReduce
  | allGather
  | reduceScatter
  | broadcast
  | gather
  | scatter
  | allToAll
  | hierarchical
  | unknown
  deriving DecidableEq, Repr, Inhabited

/-- The lifecycle state of a plan. -/
inductive PlanState where
  | requested
  | discovering
  | constructing
  | filtering
  | ranking
  | planReady
  | awaitingResourceCommit
  | committed
  | awaitingExecution
  | active
  | revalidationRequired
  | completed
  | cancelled
  | failed
  | superseded
  | retired
  deriving DecidableEq, Repr, Inhabited

/-- The outcome of the hard feasibility filter. -/
inductive Feasibility where
  | feasible
  | rejectEndpoint
  | rejectStaleEndpoint
  | rejectCapability
  | rejectTransport
  | rejectTopology
  | rejectDirection
  | rejectCapacity
  | rejectReservation
  | rejectCongestionHardLimit
  | rejectHealth
  | rejectStageLimit
  | rejectFailureDomain
  | rejectPolicy
  | revalidationRequired
  | insufficientEvidence
  | unknown
  deriving DecidableEq, Repr, Inhabited

/-- The named factors of a path cost. -/
inductive CostFactor where
  | totalExpectedCompletionCost
  | pathLatency
  | effectiveBandwidth
  | residualBandwidth
  | congestionPenalty
  | queueingEstimate
  | hopCount
  | stageCount
  | stagingOverhead
  | hostStagingCost
  | numaDistance
  | pcieLocality
  | nicLocality
  | storageLocality
  | endpointHealth
  | reservationFit
  | capacityHeadroom
  | failureDomainRisk
  | reliability
  | movementCost
  | policyPreference
  | unknown
  deriving DecidableEq, Repr, Inhabited

/-- The message kinds of the framed protocol. -/
inductive MessageType where
  | hello
  | register
  | publishEndpoint
  | publishLink
  | publishTopology
  | publishCapacity
  | publishCongestion
  | submitRequest
  | queryPlan
  | planResult
  | commitRequest
  | commitResult
  | revalidate
  | supersede
  | cancel
  | executionHandoff
  | executionResult
  | execute
  | save
  | shutdown
  | error
  deriving DecidableEq, Repr, Inhabited

/-- Why a store is refused. -/
inductive PersistErrorCode where
  | ok
  | badMagic
  | unsupportedVersion
  | truncation
  | corruption
  | checksumMismatch
  | malformedLength
  | oversizedCount
  | invalidEnum
  | duplicateId
  | duplicateCurrentAuthority
  | generationRegression
  | impossibleLifecycle
  | pathMissingEndpoint
  | invalidStageOrder
  | cycleForbidden
  | payloadMismatch
  | selectedPlanNotInCandidateSet
  | committedPlanNoEvidence
  | nanInfCost
  | cpOverflow
  | trailingGarbage
  deriving DecidableEq, Repr, Inhabited

instance : ByteCodec.Enumerated Provenance where
  all :=
    [
      .measured, .reported, .derived, .estimated, .forecast, .synthetic,
      .unknown
    ]
  position value := value.ctorIdx
  position_lt value := by cases value <;> decide
  all_position value := by cases value <;> rfl

instance : ByteCodec.Enumerated EndpointKind where
  all :=
    [
      .gpuDevice, .cpuMemory, .pinnedHostMemory, .numaMemory, .nic,
      .storage, .process, .service, .cache, .checkpoint, .modelResidency,
      .stateLocation, .unknown
    ]
  position value := value.ctorIdx
  position_lt value := by cases value <;> decide
  all_position value := by cases value <;> rfl

instance : ByteCodec.Enumerated LinkKind where
  all :=
    [
      .hostMemoryPath, .numaPath, .pciePath, .gpuHostPath, .gpuPeerPath,
      .nvlinkClassPath, .nicPath, .loopbackTcp, .networkPath, .storagePath,
      .sharedMemoryPath, .softwareRelay, .composite, .unknown
    ]
  position value := value.ctorIdx
  position_lt value := by cases value <;> decide
  all_position value := by cases value <;> rfl

instance : ByteCodec.Enumerated Transport where
  all :=
    [
      .loopbackTcp, .tcp, .unixSocket, .sharedMemory, .pcie, .nvlink,
      .gpuPeer, .hostMemory, .network, .storage, .cuda, .rdma, .unknown
    ]
  position value := value.ctorIdx
  position_lt value := by cases value <;> decide
  all_position value := by cases value <;> rfl

instance : ByteCodec.Enumerated RequestShape where
  all :=
    [
      .pointToPoint, .staged, .multicast, .collective, .unknown
    ]
  position value := value.ctorIdx
  position_lt value := by cases value <;> decide
  all_position value := by cases value <;> rfl

instance : ByteCodec.Enumerated Direction where
  all :=
    [
      .forward, .reverse, .bidirectional
    ]
  position value := value.ctorIdx
  position_lt value := by cases value <;> decide
  all_position value := by cases value <;> rfl

instance : ByteCodec.Enumerated CollectiveShape where
  all :=
    [
      .allReduce, .allGather, .reduceScatter, .broadcast, .gather,
      .scatter, .allToAll, .hierarchical, .unknown
    ]
  position value := value.ctorIdx
  position_lt value := by cases value <;> decide
  all_position value := by cases value <;> rfl

instance : ByteCodec.Enumerated PlanState where
  all :=
    [
      .requested, .discovering, .constructing, .filtering, .ranking,
      .planReady, .awaitingResourceCommit, .committed, .awaitingExecution,
      .active, .revalidationRequired, .completed, .cancelled, .failed,
      .superseded, .retired
    ]
  position value := value.ctorIdx
  position_lt value := by cases value <;> decide
  all_position value := by cases value <;> rfl

instance : ByteCodec.Enumerated Feasibility where
  all :=
    [
      .feasible, .rejectEndpoint, .rejectStaleEndpoint, .rejectCapability,
      .rejectTransport, .rejectTopology, .rejectDirection, .rejectCapacity,
      .rejectReservation, .rejectCongestionHardLimit, .rejectHealth,
      .rejectStageLimit, .rejectFailureDomain, .rejectPolicy,
      .revalidationRequired, .insufficientEvidence, .unknown
    ]
  position value := value.ctorIdx
  position_lt value := by cases value <;> decide
  all_position value := by cases value <;> rfl

instance : ByteCodec.Enumerated CostFactor where
  all :=
    [
      .totalExpectedCompletionCost, .pathLatency, .effectiveBandwidth,
      .residualBandwidth, .congestionPenalty, .queueingEstimate, .hopCount,
      .stageCount, .stagingOverhead, .hostStagingCost, .numaDistance,
      .pcieLocality, .nicLocality, .storageLocality, .endpointHealth,
      .reservationFit, .capacityHeadroom, .failureDomainRisk, .reliability,
      .movementCost, .policyPreference, .unknown
    ]
  position value := value.ctorIdx
  position_lt value := by cases value <;> decide
  all_position value := by cases value <;> rfl

instance : ByteCodec.Enumerated MessageType where
  all :=
    [
      .hello, .register, .publishEndpoint, .publishLink, .publishTopology,
      .publishCapacity, .publishCongestion, .submitRequest, .queryPlan,
      .planResult, .commitRequest, .commitResult, .revalidate, .supersede,
      .cancel, .executionHandoff, .executionResult, .execute, .save,
      .shutdown, .error
    ]
  position value := value.ctorIdx
  position_lt value := by cases value <;> decide
  all_position value := by cases value <;> rfl

instance : ByteCodec.Enumerated.Distinct Provenance where
  nodup := by decide

instance : ByteCodec.Enumerated.Distinct EndpointKind where
  nodup := by decide

instance : ByteCodec.Enumerated.Distinct LinkKind where
  nodup := by decide

instance : ByteCodec.Enumerated.Distinct Transport where
  nodup := by decide

instance : ByteCodec.Enumerated.Distinct RequestShape where
  nodup := by decide

instance : ByteCodec.Enumerated.Distinct Direction where
  nodup := by decide

instance : ByteCodec.Enumerated.Distinct CollectiveShape where
  nodup := by decide

instance : ByteCodec.Enumerated.Distinct PlanState where
  nodup := by decide

instance : ByteCodec.Enumerated.Distinct Feasibility where
  nodup := by decide

instance : ByteCodec.Enumerated.Distinct CostFactor where
  nodup := by decide

instance : ByteCodec.Enumerated.Distinct MessageType where
  nodup := by decide

/-- `toString` of a provenance. -/
def Provenance.name : Provenance → Text
  | .measured => ascii "MEASURED"
  | .reported => ascii "REPORTED"
  | .derived => ascii "DERIVED"
  | .estimated => ascii "ESTIMATED"
  | .forecast => ascii "FORECAST"
  | .synthetic => ascii "SYNTHETIC"
  | .unknown => ascii "UNKNOWN"

/-- `toString` of a transport. -/
def Transport.name : Transport → Text
  | .loopbackTcp => ascii "LOOPBACK_TCP"
  | .tcp => ascii "TCP"
  | .unixSocket => ascii "UNIX_SOCKET"
  | .sharedMemory => ascii "SHARED_MEMORY"
  | .pcie => ascii "PCIE"
  | .nvlink => ascii "NVLINK"
  | .gpuPeer => ascii "GPU_PEER"
  | .hostMemory => ascii "HOST_MEMORY"
  | .network => ascii "NETWORK"
  | .storage => ascii "STORAGE"
  | .cuda => ascii "CUDA"
  | .rdma => ascii "RDMA"
  | .unknown => ascii "UNKNOWN"

/-- `toString` of a collective. -/
def CollectiveShape.name : CollectiveShape → Text
  | .allReduce => ascii "ALL_REDUCE"
  | .allGather => ascii "ALL_GATHER"
  | .reduceScatter => ascii "REDUCE_SCATTER"
  | .broadcast => ascii "BROADCAST"
  | .gather => ascii "GATHER"
  | .scatter => ascii "SCATTER"
  | .allToAll => ascii "ALL_TO_ALL"
  | .hierarchical => ascii "HIERARCHICAL"
  | .unknown => ascii "UNKNOWN"

end CommunicationPlanner
