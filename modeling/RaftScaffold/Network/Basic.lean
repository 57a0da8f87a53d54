import RaftScaffold.Node.Actor
import RaftScaffold.Lifecycle

set_option autoImplicit false

/-! # The Network actor's data

The fields of `Network` (`network.rs`) and the lookups its handlers share. The actors of one process form a
`Host`: the network, the `Node` actors it has started, and what is still under way between them. -/

namespace RaftScaffold

/-- An entry of the node table. -/
structure NodeRef where
  id : NodeId
  info : Option NodeInfo
  addr : Option Addr
  deriving DecidableEq, Repr

/-- `BTreeMap<NodeId, NodeRef>`. -/
abbrev NodeTable := Std.ExtTreeMap NodeId NodeRef

/-- The consistent-hash ring of `hash_ring`, which nothing fills after `Ring::new`. -/
structure Ring where
  nodes : List NodeId
  replicas : Int
  deriving DecidableEq, Repr

def Ring.new (replicas : Int) : Ring := { nodes := [], replicas }

/-- A running HTTP server, by the address it is bound to. -/
structure Server where
  address : String
  deriving DecidableEq, Repr

structure Network where
  id : NodeId
  info : NodeInfo
  state : NetworkState
  nodes : NodeTable
  ring : Ring
  metrics : Option RaftMetrics
  raft : Option RaftAddr
  server : Option Server

namespace Network

def new (now : DateTime) (id : NodeId) (info : NodeInfo) (ring : Ring) : Network :=
  { id
    info
    state := NetworkState.default now
    nodes := (∅ : NodeTable).insert id { id, info := some info, addr := none }
    ring
    metrics := none
    raft := none
    server := none }

/-- `Network::configure_with`: `seeds` lists the values of the configuration's hash map of seed nodes, in
    the order in which it yields them. -/
def configureWith (self : Network) (sha256 : String → String) (seeds : List NodeInfo) : Network :=
  seeds.foldl
    (fun self n =>
      let id := n.nodeId sha256
      { self with nodes := self.nodes.insert id { id, info := some n, addr := none } })
    self

def getNode (self : Network) (id : NodeId) : Option Addr :=
  self.nodes[id]?.bind NodeRef.addr

def leaderRef (self : Network) : Option NodeRef :=
  self.metrics.bind fun m => m.currentLeader.bind fun id => self.nodes[id]?

def isolateNode (self : Network) (id : NodeId) : Network :=
  { self with state := self.state.isolateNode id }

def restoreNode (self : Network) (id : NodeId) : Network :=
  { self with state := self.state.restoreNode id }

/-- `Network::determine_proximity`: only the local node needs the Raft actor. -/
def determineProximity (localId nodeId : NodeId) (nodeInfo : NodeInfo) (raft : Option RaftAddr) :
    Except Unit Proximity :=
  if nodeId = localId then
    match raft with
    | some r => .ok (.localNode { id := localId, raft := r })
    | none => .error ()
  else .ok (.remoteNode { remoteId := nodeId, remoteInfo := nodeInfo })

/-- The error of `leader_delegate` for a leader that is not the started local node. -/
def leaderError (self : Network) (lref : NodeRef) : NetworkError :=
  if self.id = lref.id then .unknown "Local leader node is not started"
  else if lref.info.isSome then
    .notLeader (some lref.id) (lref.info.map NodeInfo.clusterAddress)
  else .unknown ("Leader#" ++ toString lref.id ++ " actor is not registered.")

/-- `Network::leader_delegate`. -/
def leaderDelegate (self : Network) : Except NetworkError Addr :=
  match self.leaderRef with
  | some lref =>
      match lref.addr with
      | some addr => if lref.id = self.id then .ok addr else .error (self.leaderError lref)
      | none => .error (self.leaderError lref)
  | none => .error .noElectedLeader

end Network

/-! ## The actors of one process -/

/-- The messages the network sends to its `Node` actors that change them. -/
inductive NodeMsg where
  | updateProximity (proximity : Proximity)
  | changeClusterConfig (command : ChangeClusterConfig)
  deriving DecidableEq, Repr

def NodeMsg.event : NodeMsg → NodeEvent
  | .updateProximity proximity => .updateProximity proximity
  | .changeClusterConfig command => .changeClusterConfig command

structure Host where
  network : Network
  /-- The `Node` actors, in the order in which they were started; an `Addr` is an index. -/
  actors : List NodeActor
  /-- Messages to `Node` actors that have not been handled yet. -/
  outbox : List (Addr × NodeMsg)
  /-- Futures of `ConnectNode` handlers that will delegate this change to the leader. -/
  delegations : List ChangeClusterConfig
  /-- Futures of `GetCurrentLeader` handlers that wait for their timer. -/
  leaderQueries : List GetCurrentLeader
  /-- Futures of `InstallSnapshotRequest` handlers that will forward this request. -/
  snapshots : List InstallSnapshotRequest

namespace Host

def new (now : DateTime) (id : NodeId) (info : NodeInfo) (ring : Ring) : Host :=
  { network := Network.new now id info ring, actors := [], outbox := [], delegations := [], leaderQueries := [],
    snapshots := [] }

/-- The actor at an address. -/
def actorAt (self : Host) (addr : Addr) : Option NodeActor := self.actors[addr.index]?

/-- `Actor::start` of a `Node`. -/
def startNode (self : Host) (node : Node) : Addr × Host :=
  (⟨self.actors.length⟩, { self with actors := self.actors ++ [NodeActor.start node] })

end Host

end RaftScaffold
