import RaftScaffold.Transition.PerKey
import RaftScaffold.Transport.Decimal
import RaftScaffold.Errors
import RaftScaffold.Lifecycle
import RaftScaffold.Network.Started
import RaftScaffold.Network.RoleHistory
import RaftScaffold.Network.Membership
import RaftScaffold.Network.Standing
import RaftScaffold.Network.Leader
import RaftScaffold.Network.Isolation
import RaftScaffold.Raft.Settled
import RaftScaffold.Network.Handshake
import RaftScaffold.Network.Cluster
import RaftScaffold.Network.Delegation
import RaftScaffold.Network.Replacement
import RaftScaffold.Network.OwnNode
import RaftScaffold.Network.LeaderDelegate
import RaftScaffold.Network.Upsert
import RaftScaffold.Node.Attempts
import RaftScaffold.TimeAccounting
import RaftScaffold.Network.FastPath
import RaftScaffold.Network.Acknowledgement
import RaftScaffold.Http.Survival
import RaftScaffold.Config.Layering
import RaftScaffold.Config.Seeds
import RaftScaffold.Raft.Lookup
import RaftScaffold.Raft.Crashes
import RaftScaffold.Network.Proposals
import RaftScaffold.Raft.Boot
import RaftScaffold.Storage.Requests
import RaftScaffold.Storage.Transfer
import RaftScaffold.Storage.StateMachine
