import Knowbee.Approval.Grants
import Knowbee.Artifact.CleanupRuns
import Knowbee.Artifact.ConsumerRuns
import Knowbee.Authorization.IssuerAgreement
import Knowbee.Authorization.ProofDecoding
import Knowbee.Broadcast.PlanRuns
import Knowbee.Cancellation.UseCaseRuns
import Knowbee.Command.ExecuteCapability
import Knowbee.Command.RegistryInvariant
import Knowbee.Delegation.ForestLaws
import Knowbee.Delegation.HierarchySound
import Knowbee.Delivery.ReceiptRuns
import Knowbee.Improvement.StateMachine
import Knowbee.Ledger.Admission
import Knowbee.Ledger.Finalizer
import Knowbee.Memory.PinnedRuns
import Knowbee.Memory.WindowSound
import Knowbee.Mqtt.CommandPumpRuns
import Knowbee.Mqtt.Topics
import Knowbee.Network.TargetPolicySound
import Knowbee.Orchestration.PlanGraph
import Knowbee.Orchestration.ResumeSound
import Knowbee.Policy.AllowlistNames
import Knowbee.Policy.CapabilitySound
import Knowbee.Policy.PathAccessSound
import Knowbee.Policy.RepositoryRuns
import Knowbee.Queue.BackpressureRuns
import Knowbee.Queue.ExecutionRuns
import Knowbee.Resolution.Continuation
import Knowbee.Resolution.WebRetrieval
import Knowbee.Resource.AdmissionRuns
import Knowbee.Retention.PruneRuns
import Knowbee.Retention.ResponseArchiveRuns
import Knowbee.Schedule.Candidates
import Knowbee.Schedule.ChainedQueuesRuns
import Knowbee.Schedule.NextRun
import Knowbee.Schedule.QueueingRuns
import Knowbee.Schedule.RunRows
import Knowbee.Schedule.SystemDriverRuns
import Knowbee.SideEffect.Identity
import Knowbee.Storage.EnvelopeCodec
import Knowbee.Storage.LocalRuns
import Knowbee.SubSession.AggregationSound
import Knowbee.SubSession.GroupRuns
import Knowbee.SubSession.StoreRuns
import Knowbee.SubSession.WritersRuns
import Knowbee.Terminal.RepositoryRuns
import Knowbee.Topology.Bookkeeping
import Knowbee.Topology.DraftRuns
import Knowbee.Topology.RegistryRuns
import Knowbee.Topology.Unlink
import Knowbee.TopologyRuntime.AggregationExact
import Knowbee.TopologyRuntime.NodeRuntimeSound
import Knowbee.TopologyRuntime.ToolPlanSound
import Knowbee.Work.CanonicalRuns
