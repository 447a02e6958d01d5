import TopologyOperator.Dialogue.Program
import TopologyOperator.Dialogue.Safety
import TopologyOperator.Dialogue.TwoRuns
import TopologyOperator.Encoding.Json
import TopologyOperator.Controller.Runs
import TopologyOperator.Controller.SuperStream
import TopologyOperator.Webhook.Validation
import TopologyOperator.Properties.FinalizerRemoval
import TopologyOperator.Properties.FinalizerFirst
import TopologyOperator.Properties.UnblockedDeletion
import TopologyOperator.Properties.NamespaceIsolation
import TopologyOperator.Properties.StablePartitions
import TopologyOperator.Properties.FrozenIdentity
import TopologyOperator.Properties.StatusAhead
import TopologyOperator.Properties.StoredCredentials
import TopologyOperator.Properties.LostWakeups
import TopologyOperator.Properties.SecretRequests
import TopologyOperator.Properties.LostStatus
import TopologyOperator.Properties.HonestStatus
import TopologyOperator.Properties.ObservedSuccess
import TopologyOperator.Properties.LingeringObjects
import TopologyOperator.Properties.IdempotentDeletion
import TopologyOperator.Properties.ConditionalDeletion
import TopologyOperator.Properties.AppendOnlyUpdates
import TopologyOperator.Properties.QueueUpdates
import TopologyOperator.Properties.BuiltTopology
import TopologyOperator.Properties.DistinctPartitions
import TopologyOperator.Properties.ChildReferences
import TopologyOperator.Properties.CascadingDeletion
import TopologyOperator.Properties.BindingKeys
import TopologyOperator.Properties.ConnectionUris
import TopologyOperator.Properties.IncompleteSecrets
import TopologyOperator.Properties.ConvergingLimits
import TopologyOperator.Properties.UnusableCredentials
import TopologyOperator.Properties.ReportedDeletion
import TopologyOperator.Properties.NilDereferences
import TopologyOperator.Properties.ClusterDependants
import TopologyOperator.Properties.ChildNames
import TopologyOperator.Properties.FederationSettings
import TopologyOperator.Properties.ConditionBookkeeping
import TopologyOperator.Properties.RestingChildren
import TopologyOperator.Properties.SteadyTopology
import TopologyOperator.Properties.PasswordSync
import TopologyOperator.Properties.SharedBroker
import TopologyOperator.Properties.SecretStoreClient
import TopologyOperator.Properties.ConcealedCredentials
import TopologyOperator.Properties.Convergence
import TopologyOperator.Properties.StreamTopology
import TopologyOperator.Properties.StreamRounds
import TopologyOperator.Properties.HeldSuperStream
import TopologyOperator.Cmd.ClusterDomain
