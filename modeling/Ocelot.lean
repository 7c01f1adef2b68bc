import Ocelot.Tracker.AnnounceCredit
import Ocelot.Tracker.RestartUsers
import Ocelot.Tracker.FrontEnds
import Ocelot.Tracker.Tokens
import Ocelot.Tracker.SnapshotRoundTrip
import Ocelot.Tracker.StatsDrift
import Ocelot.Tracker.FraudEnforcer
import Ocelot.Tracker.CircuitEpisodes
import Ocelot.Tracker.Delivery
import Ocelot.Tracker.BatchWriter
import Ocelot.Tracker.ShardManager
import Ocelot.Tracker.Bencode
import Ocelot.Tracker.NodeIndex
import Ocelot.Tracker.MarkStale
import Ocelot.Tracker.ReplicaLifecycle
import Ocelot.Tracker.Provisioning
import Ocelot.Tracker.ScaleDown
import Ocelot.Tracker.Isolation
import Ocelot.Tracker.WhitelistTrie
import Ocelot.Tracker.GreedyPlace
import Ocelot.Tracker.InvalidIP
import Ocelot.Commons.Scarcity
import Ocelot.Commons.SpendingCap
import Ocelot.Commons.RankedSeeders
import Ocelot.Commons.Solvency
import Ocelot.Compute.GpuBooking
import Ocelot.Compute.Finality
import Ocelot.Compute.SchedulerPass
import Ocelot.Compute.RetryBudget
import Ocelot.Compute.Replay
import Ocelot.Compute.Tenants
import Ocelot.Agent.Unsent
import Ocelot.Agent.Dispatch
import Ocelot.VirtualServer.Reallocation
import Ocelot.VirtualServer.Capacity
import Ocelot.VirtualServer.Termination
import Ocelot.VirtualServer.NodeLifecycle
import Ocelot.VirtualServer.Attachments
import Ocelot.VirtualServer.Feasibility
import Ocelot.VirtualServer.LocalVolumes
import Ocelot.VirtualServer.VolumeRequests
import Ocelot.Markov.Snatches
