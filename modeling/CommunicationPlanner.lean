import CommunicationPlanner.Binary64
import CommunicationPlanner.Binary64Fields
import CommunicationPlanner.ExactNaturals
import CommunicationPlanner.ByteCodec
import CommunicationPlanner.OrderedCollections
import CommunicationPlanner.Identifiers
import CommunicationPlanner.DecimalText
import CommunicationPlanner.Enumerations
import CommunicationPlanner.DataModel
import CommunicationPlanner.Feasibility
import CommunicationPlanner.ReservationOverflow
import CommunicationPlanner.CostModel
import CommunicationPlanner.LinkProvenance
import CommunicationPlanner.Ranking
import CommunicationPlanner.RankingOrder
import CommunicationPlanner.SimplePathSearch
import CommunicationPlanner.PathEnumeration
import CommunicationPlanner.Allocation
import CommunicationPlanner.PlanConstruction
import CommunicationPlanner.PlanOrigin
import CommunicationPlanner.PlannerCorrectness
import CommunicationPlanner.PlannerTotality
import CommunicationPlanner.FanOutPlans
import CommunicationPlanner.PlannerDeterminism
import CommunicationPlanner.Revalidation
import CommunicationPlanner.Lifecycle
import CommunicationPlanner.ResourceBroker
import CommunicationPlanner.Persistence
import CommunicationPlanner.StoreSpelling
import CommunicationPlanner.StoreRoundTrip
import CommunicationPlanner.Checksum
import CommunicationPlanner.StoreIntegrity
import CommunicationPlanner.PooledHoldings
import CommunicationPlanner.TransitionRun
import CommunicationPlanner.Interleavings
import CommunicationPlanner.RequestReply
import CommunicationPlanner.Messages
import CommunicationPlanner.WireProtocol
import CommunicationPlanner.WireRoundTrip
import CommunicationPlanner.DecodedMessages
import CommunicationPlanner.FrameIntegrity
import CommunicationPlanner.ByteStream
import CommunicationPlanner.FrameTransport
import CommunicationPlanner.EvidenceRegistry
import CommunicationPlanner.PlanLedger
import CommunicationPlanner.Coordinator
import CommunicationPlanner.CoordinatorSteps
import CommunicationPlanner.CoordinatorActions
import CommunicationPlanner.ProcessObservations
import CommunicationPlanner.PlanFinality
import CommunicationPlanner.CommitRace
import CommunicationPlanner.ExecutionOrder
import CommunicationPlanner.BrokerHoldings
import CommunicationPlanner.BrokerAccounts
import CommunicationPlanner.BrokerLimits
import CommunicationPlanner.ClaimLeaks
import CommunicationPlanner.CommitCancellation
import CommunicationPlanner.Replies
import CommunicationPlanner.RegistryEffects
import CommunicationPlanner.Fencing
import CommunicationPlanner.RemotePublishers
import CommunicationPlanner.ConnectionFencing
import CommunicationPlanner.BrokenConnections
import CommunicationPlanner.RecordOwnership
import CommunicationPlanner.EvidenceWithdrawal
import CommunicationPlanner.EvidenceHistory
import CommunicationPlanner.HandoffFeasibility
import CommunicationPlanner.StoreRecovery
import CommunicationPlanner.StoreValidation
import CommunicationPlanner.ResultAuthority
import CommunicationPlanner.Conversations
import CommunicationPlanner.ClientCalls
import CommunicationPlanner.Draining
import CommunicationPlanner.Restarts
import CommunicationPlanner.RestartChains
import CommunicationPlanner.CrashRecovery
import CommunicationPlanner.Supersession
import CommunicationPlanner.DynamicEvidence
import CommunicationPlanner.StagedPlans
import CommunicationPlanner.PlanValidity
import CommunicationPlanner.PlanHistories
import CommunicationPlanner.CoordinatorLifecycle
import CommunicationPlanner.PlanBindings
import CommunicationPlanner.Relaxation
import CommunicationPlanner.EvidenceLoss
import CommunicationPlanner.Failover
import CommunicationPlanner.EvidenceGain
import CommunicationPlanner.LoopErasure
import CommunicationPlanner.RouteExistence
import CommunicationPlanner.PlanningIsolation
import CommunicationPlanner.EvidenceCells
import CommunicationPlanner.EvidenceInterleavings
import CommunicationPlanner.PlanningOverWire
import CommunicationPlanner.PlannedStores
import CommunicationPlanner.ResourceNumbering
import CommunicationPlanner.RecoveredRequests
import CommunicationPlanner.CheckedArithmetic
import CommunicationPlanner.CostArithmetic
import CommunicationPlanner.DeclaredBounds
