import WafControl.Discovery.Server
import WafControl.Envoy.Reading
import WafControl.Forwarding.Loopback
import WafControl.Main
import WafControl.Net.ErrorChain
import WafControl.Net.Namespace
import WafControl.Policy.Wire
import WafControl.Proofs.Kept
import WafControl.Redirect.CommandLine
import WafControl.Relay.Agent
import WafControl.Workload.PodLookup
import WafControl.Workload.RuntimeInfo
import WafControl.Proofs.BuildChecks
import WafControl.Proofs.RoutedCalls
import WafControl.Proofs.ServedPorts
import WafControl.Proofs.Programming
import WafControl.Proofs.Serving
import WafControl.Proofs.Reconciling
import WafControl.Proofs.RelayNode
import WafControl.Proofs.AbsentRedirect
import WafControl.Proofs.AgentParts
import WafControl.Proofs.CachedSlices
import WafControl.Proofs.SliceOrder
import WafControl.Proofs.AgentSteps
import WafControl.Proofs.AnnouncedHosts
import WafControl.Proofs.TogglesRouted
import WafControl.Proofs.AgentRuns
import WafControl.Proofs.RelayTable
import WafControl.Proofs.RelayHealth
import WafControl.Proofs.Subscribing
import WafControl.Proofs.Sessions
import WafControl.Proofs.Transcripts
import WafControl.Proofs.ClusterOrder
import WafControl.Proofs.Dialogues
import WafControl.Proofs.Exchanges
import WafControl.Proofs.Convergence
import WafControl.Proofs.PolledStore
import WafControl.Proofs.CurrentListings
import WafControl.Proofs.GatewayTask
import WafControl.Proofs.GatewayRuns
import WafControl.Proofs.OptionsInForce
import WafControl.Proofs.NodeRecords
import WafControl.Proofs.RelayDiscipline
import WafControl.Proofs.TypeIsolation
import WafControl.Proofs.InformerHistory
import WafControl.Proofs.WatchWaits
import WafControl.Proofs.StaleRequests
import WafControl.Proofs.ResponseCauses
import WafControl.Proofs.ServerRuns
import WafControl.Proofs.NodeIsolation
import WafControl.Proofs.StartRequests
import WafControl.Proofs.ProgrammedRuns
import WafControl.Proofs.NamedFaults
import WafControl.Proofs.MessageReading
import WafControl.Proofs.ClosedRequests
import WafControl.Proofs.BuiltResources
import WafControl.Proofs.PushedSnapshots
import WafControl.Proofs.RoutedSlices
import WafControl.Proofs.RouterRuns
import WafControl.Proofs.SpawnedStarts
import WafControl.Proofs.HostRecords
import WafControl.Proofs.StartEffects
import WafControl.Proofs.CacheReaders
import WafControl.Proofs.WatchCourse
import WafControl.Proofs.WatchedStreams
import WafControl.Proofs.FirstRequests
import WafControl.Proofs.LosslessMessages
import WafControl.Proofs.NarrowedListings
import WafControl.Proofs.ListedRules
import WafControl.Proofs.DoublingDelays
import WafControl.Proofs.GrowingDelays
import WafControl.Proofs.ContainerNames
import WafControl.Proofs.NamedNamespaces
import WafControl.Proofs.PolledIntervals
