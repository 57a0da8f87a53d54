import RaftScaffold.Network.Basic
import RaftScaffold.Transition.Runs

set_option autoImplicit false

/-! # The Network actor's handlers

The handlers of `network.rs` as functions of the host, in the order of the source, and the machine they make
up (`Host.step`). A handler that returns a future runs in two pieces: what it does when it accepts the
message, and what the future does when it is polled, with other messages handled in between. -/

namespace RaftScaffold

open Transition

namespace Host

def withNodes (self : Host) (nodes : NodeTable) : Host :=
  { self with network := { self.network with nodes } }

def send (self : Host) (addr : Addr) (msg : NodeMsg) : Host :=
  { self with outbox := self.outbox ++ [(addr, msg)] }

/-! ## Registration of nodes -/

/-- `Network::register_node`: an entry that has its actor and the same info stays as it is, any other gets
    the new info and, where a proximity can be determined, a new actor. -/
def registerNode (self : Host) (nodeId : NodeId) (nodeInfo : NodeInfo) :
    Except NetworkError Host := do
  let nodes :=
    if nodeId ∈ self.network.nodes then self.network.nodes
    else self.network.nodes.insert nodeId { id := nodeId, info := some nodeInfo, addr := none }
  let registered ← match nodes[nodeId]? with
    | some nodeRef =>
        if nodeRef.info = some nodeInfo ∧ nodeRef.addr.isSome then .ok (self.withNodes nodes)
        else
          match Network.determineProximity self.network.id nodeId nodeInfo self.network.raft with
          | .ok proximity =>
              let node := Node.new nodeId nodeInfo self.network.id self.network.info proximity
              let (addr, started) := self.startNode node
              .ok (started.withNodes
                (nodes.insert nodeId { nodeRef with info := some nodeInfo, addr := some addr }))
          -- the local node waits for its Raft actor
          | .error _ => .ok (self.withNodes (nodes.insert nodeId { nodeRef with info := some nodeInfo }))
    | none =>
        .error (.unknown ("No node#" ++ toString nodeId ++ " registered in Network#" ++
          toString self.network.id ++ "."))
  .ok { registered with network := registered.network.restoreNode nodeId }

/-- `Actor::started`: every entry of the table is registered with the info it has. -/
def started (self : Host) : Except Panic Host :=
  self.network.nodes.toList.foldlM
    (fun host (nodeId, nodeRef) =>
      match nodeRef.info with
      | some info =>
          match host.registerNode nodeId info with
          | .ok host => .ok host
          | .error _ => .error ⟨"called `Result::unwrap()` on an `Err` value"⟩
      | none => .ok host)
    self

/-! ## Registration of the Raft actor -/

/-- `Network::register_raft`: the running local node is sent its new proximity. -/
def registerRaft (self : Host) (nodeRef : NodeRef) (raft : RaftAddr) :
    Except Panic (Host × Except NetworkError Unit) := do
  let info ← expect "assertion failed: node_ref.info.is_some()" nodeRef.info
  let addr ← expect "assertion failed: node_ref.addr.is_some()" nodeRef.addr
  match Network.determineProximity self.network.id nodeRef.id info (some raft) with
  | .ok proximity => .ok (self.send addr (.updateProximity proximity), .ok ())
  | .error _ =>
      .ok (self, .error (.unknown ("[network_id=" ++ toString self.network.id ++ "] [node_id=" ++
        toString nodeRef.id ++
        "] Failed to determine node proximity since Raft registration failed.")))

/-- `Network::register_raft_and_create_local_node`. -/
def registerRaftAndCreateLocalNode (self : Host) (nodeRef : NodeRef) :
    Except Panic (Host × Except NetworkError Unit) := do
  let info ← expect "assertion failed: node_ref.info.is_some()" nodeRef.info
  if nodeRef.addr.isSome then .error ⟨"assertion failed: node_ref.addr.is_none()"⟩
  else
    match self.registerNode nodeRef.id info with
    | .ok host => .ok (host, .ok ())
    | .error err => .ok (self, .error err)

/-- `Handler<RegisterRaft>`. -/
def handleRegisterRaft (self : Host) (raft : RaftAddr) :
    Except Panic (Host × Except NetworkError Unit) :=
  let host := { self with network := { self.network with raft := some raft } }
  match host.network.nodes[host.network.id]? with
  | some nodeRef =>
      match nodeRef.info, nodeRef.addr with
      | some _, some _ => host.registerRaft nodeRef raft
      | some _, none => host.registerRaftAndCreateLocalNode nodeRef
      | none, _ => .ok (host, .ok ())
  | none =>
      .error ⟨"Shouldn't happen: RegisterRaft command sent to unstarted Network actor."⟩

end Host

/-! ## Handlers that concern the network alone -/

namespace Network

/-- `Handler<RaftMetrics>`, at the clock reading `now`. -/
def handleRaftMetrics (self : Network) (now : DateTime) (msg : RaftMetrics) : Except Panic Network := do
  let state ← self.state.advanceStateOnRaftStatus now msg
  .ok { self with state, metrics := some msg }

/-- `Handler<BindEndpoint>`; starting the server is a parameter. -/
def handleBindEndpoint (self : Network) (startServer : String → Except PortError Server) :
    Network × Except NetworkError Unit :=
  match startServer self.info.clusterAddress with
  | .ok server => ({ self with server := some server }, .ok ())
  | .error err => (self, .error (.networkBindError err))

/-- `Handler<HandleNodeStatusChange>`. -/
def handleNodeStatusChange (self : Network) (msg : HandleNodeStatusChange) : Network :=
  if msg.id ∈ self.nodes then
    match msg.status with
    | .initialized => self.isolateNode msg.id
    | .weaklyConnected => self.isolateNode msg.id
    | .connected => self.restoreNode msg.id
    -- the node counts its failures itself
    | .failure _ => self
    | .disconnected => self.isolateNode msg.id
  else self

/-- `Handler<DisconnectNode>`. -/
def handleDisconnectNode (self : Network) (msg : DisconnectNode) : Network :=
  { self with nodes := self.nodes.erase msg.id }

end Network

/-! ## Asking for the current leader -/

/-- Where a query is: in the network's mailbox, waiting for its timer, or answered. -/
inductive LeaderQuery where
  | queued (msg : GetCurrentLeader)
  | delayed (msg : GetCurrentLeader)
  | answered (res : Except NetworkError CurrentLeader)

namespace LeaderQuery

/-- `Handler<GetCurrentLeader>`. -/
def handle (network : Network) (msg : GetCurrentLeader) : LeaderQuery :=
  match network.metrics with
  | some metrics =>
      match metrics.currentLeader with
      | some leader => .answered (.ok { leader := some leader })
      | none => .delayed msg
  | none => .delayed msg

/-- The continuation after the delay. -/
def afterDelay (timer : Except TimerError Unit) (msg : GetCurrentLeader) :
    Except Panic LeaderQuery :=
  match timer with
  | .error err => .ok (.answered (.error (.delayError err)))
  | .ok _ =>
      match msg.retry with
      | .ok msgRetry => .ok (.queued msgRetry)
      | .error _ => .error ⟨"called `Result::unwrap()` on an `Err` value: ()"⟩

end LeaderQuery

/-! ## Connecting a node -/

namespace Host

/-- `Network::handle_connect_remote_node`. -/
def handleConnectRemoteNode (self : Host) (command : ConnectNode) : Except NetworkError Host :=
  match self.network.nodes[command.id]?.bind NodeRef.info with
  | some currentInfo =>
      if command.info = currentInfo then .ok self
      else self.registerNode command.id command.info
  | none => self.registerNode command.id command.info

/-- `Handler<ConnectNode>` up to the future that delegates the configuration change to the leader. -/
def handleConnectNode (self : Host) (command : ConnectNode) : Except NetworkError Host := do
  let host ← self.handleConnectRemoteNode command
  .ok { host with delegations := host.delegations ++ [ChangeClusterConfig.newToAdd [command.id]] }

/-- `Network::delegate_to_leader` up to the message it sends. -/
def delegateToLeader (self : Host) (command : ChangeClusterConfig) : Except NetworkError Host := do
  let leader ← self.network.leaderDelegate
  .ok (self.send leader (.changeClusterConfig command))

end Host

/-- How `Handler<ConnectNode>` turns the outcome of the delegation into its reply. -/
def connectNodeReply (res : Except NetworkError Unit) : Except NetworkError Acknowledged :=
  match res with
  | .ok _ => .ok {}
  | .error (.notLeader _ _) => .ok {}
  | .error .noElectedLeader => .ok {}
  | .error err => .error err

/-! ## Snapshots -/

namespace Network

def ignoreInIsolation (self : Network) (targetId leaderId : NodeId) : Except Unit Unit :=
  if targetId ∉ self.nodes || self.state.isIsolatedNode targetId ||
      self.state.isIsolatedNode leaderId then .error ()
  else .ok ()

end Network

/-! ## The machine -/

/-- The messages whose handlers only read the network. What they answer is modelled apart from the machine. The
    futures of two of them read it once more, later. -/
inductive NetworkQuery where
  | clientRequest
  | getConnectedNodes
  | getNode
  | getCurrentLeader (msg : GetCurrentLeader)
  | getClusterSummary
  | appendEntries
  | vote
  | installSnapshot (msg : InstallSnapshotRequest)
  deriving DecidableEq, Repr

/-- The messages in the network's mailbox; `bindEndpoint` carries what starting the server will do. -/
inductive NetworkMsg where
  | registerRaft (raft : RaftAddr)
  | raftMetrics (now : DateTime) (metrics : RaftMetrics)
  | bindEndpoint (startServer : String → Except PortError Server)
  | query (query : NetworkQuery)
  | handleNodeStatusChange (msg : HandleNodeStatusChange)
  | connectNode (command : ConnectNode)
  | disconnectNode (command : DisconnectNode)

namespace Host

/-- What a query leaves behind: the future that waits for a leader, or the one that forwards a snapshot. -/
def handleQuery (self : Host) : NetworkQuery → Host
  | .getCurrentLeader msg =>
      match LeaderQuery.handle self.network msg with
      | .delayed msg => { self with leaderQueries := self.leaderQueries ++ [msg] }
      | _ => self
  | .installSnapshot msg =>
      match self.network.ignoreInIsolation msg.target msg.leaderId with
      | .ok _ => { self with snapshots := self.snapshots ++ [msg] }
      | .error _ => self
  | _ => self

def handle (self : Host) : NetworkMsg → Except Panic Host
  | .registerRaft raft => (self.handleRegisterRaft raft).map Prod.fst
  | .raftMetrics now metrics =>
      (self.network.handleRaftMetrics now metrics).map fun network => { self with network }
  | .bindEndpoint startServer =>
      .ok { self with network := (self.network.handleBindEndpoint startServer).1 }
  | .query query => .ok (self.handleQuery query)
  | .handleNodeStatusChange msg =>
      .ok { self with network := self.network.handleNodeStatusChange msg }
  | .connectNode command =>
      match self.handleConnectNode command with
      | .ok host => .ok host
      | .error _ => .ok self
  | .disconnectNode command =>
      .ok { self with network := self.network.handleDisconnectNode command }

/-- An actor handles an event. -/
def stepNode (self : Host) (addr : Addr) (event : NodeEvent) : Except Halt Host :=
  match self.actorAt addr with
  | none => .error .notEnabled
  | some actor => do
      let stepped ← actor.step event
      .ok { self with actors := self.actors.set addr.index stepped }

end Host

/-- What can happen in a process. `node` covers the events an actor meets on its own; messages from the
    network reach it by `deliver`. `wake` is the timer of a query for the leader, and `forward` the poll of a
    snapshot's future. -/
inductive HostEvent where
  | configureWith (seeds : List NodeInfo)
  | started
  | message (msg : NetworkMsg)
  | delegate (n : Nat)
  | deliver (n : Nat)
  | node (addr : Addr) (event : NodeEvent)
  | wake (n : Nat) (timer : Except TimerError Unit)
  | forward (n : Nat)

/-- Is this an event a node meets without the network sending it a message? -/
def NodeEvent.isOwn : NodeEvent → Bool
  | .updateProximity _ => false
  | .changeClusterConfig _ => false
  | _ => true

def Host.step (sha256 : String → String) (self : Host) : HostEvent → Except Halt Host
  | .configureWith seeds => .ok { self with network := self.network.configureWith sha256 seeds }
  | .started => orPanic self.started
  | .message msg => orPanic (self.handle msg)
  | .delegate n =>
      match self.delegations[n]? with
      | none => .error .notEnabled
      | some command =>
          let polled := { self with delegations := self.delegations.eraseIdx n }
          match polled.delegateToLeader command with
          | .ok host => .ok host
          -- the sender of the `ConnectNode` gets the error, the network does nothing
          | .error _ => .ok polled
  | .deliver n =>
      match self.outbox[n]? with
      | none => .error .notEnabled
      | some (addr, msg) => { self with outbox := self.outbox.eraseIdx n }.stepNode addr msg.event
  | .node addr event => if event.isOwn then self.stepNode addr event else .error .notEnabled
  | .wake n timer =>
      match self.leaderQueries[n]? with
      | none => .error .notEnabled
      | some msg => do
          -- a message that is sent again is one more message that the network meets
          let _ ← orPanic (LeaderQuery.afterDelay timer msg)
          .ok { self with leaderQueries := self.leaderQueries.eraseIdx n }
  | .forward n =>
      match self.snapshots[n]? with
      | none => .error .notEnabled
      | some msg => do
          let _ ← orPanic (unwrap (self.network.getNode msg.target))
          .ok { self with snapshots := self.snapshots.eraseIdx n }

/-- A step of the host. -/
abbrev Host.Step (sha256 : String → String) : Host → HostEvent → Host → Prop :=
  StepOf (Host.step sha256)

namespace HostEvent

/-- The events of a running network, after `started`. -/
def IsRuntime : HostEvent → Prop
  | .configureWith _ => False
  | .started => False
  | _ => True

instance (e : HostEvent) : Decidable e.IsRuntime := by
  cases e <;> unfold IsRuntime <;> infer_instance

/-- The node that an event is about; `RegisterRaft` is about the network's own node. -/
def about (own : NodeId) : HostEvent → Option NodeId
  | .message (.registerRaft _) => some own
  | .message (.handleNodeStatusChange msg) => some msg.id
  | .message (.connectNode command) => some command.id
  | .message (.disconnectNode command) => some command.id
  | _ => none

end HostEvent

namespace Host

/-- The states reachable from a new network by any events in any order. -/
def Reachable (sha256 : String → String) (h : Host) : Prop :=
  ∃ now id info ring es, Runs (Step sha256) (Host.new now id info ring) es h

/-- A network that was configured with `seedLists` and has just run `started`. -/
def JustStarted (sha256 : String → String) (h : Host) : Prop :=
  ∃ (now : DateTime) (id : NodeId) (info : NodeInfo) (ring : Ring) (seedLists : List (List NodeInfo)),
    Runs (Step sha256) (Host.new now id info ring)
      (seedLists.map HostEvent.configureWith ++ [.started]) h

/-- The states a started network can reach. -/
def StartedReachable (sha256 : String → String) (h : Host) : Prop :=
  ∃ h₀ es, JustStarted sha256 h₀ ∧ (∀ e ∈ es, e.IsRuntime) ∧ Runs (Step sha256) h₀ es h

theorem JustStarted.reachable {sha256 : String → String} {h : Host} (hs : JustStarted sha256 h) :
    Reachable sha256 h := by
  obtain ⟨now, id, info, ring, seedLists, hrun⟩ := hs
  exact ⟨now, id, info, ring, _, hrun⟩

theorem Reachable.runs {sha256 : String → String} {h h' : Host} {es : List HostEvent}
    (hr : Reachable sha256 h) (hrun : Runs (Step sha256) h es h') : Reachable sha256 h' := by
  obtain ⟨now, id, info, ring, es₀, hrun₀⟩ := hr
  exact ⟨now, id, info, ring, es₀ ++ es, hrun₀.append hrun⟩

/-! ## A sample network

The concrete runs in the later files start from this network, with no seed nodes. -/

def sampleInfo : NodeInfo :=
  { name := "a", clusterAddress := "a:8000", appAddress := "a:8001", publicAddress := "a:8002" }

def sampleNew : Host := Host.new 0 1 sampleInfo (Ring.new 10)

/-- The sample network after the events `es`. -/
def sampleRun (es : List HostEvent) : Host := finalState (Host.step fun _ => "") sampleNew es

/-- The sample network after it was started and node 2 joined. -/
def sampleJoined : Host :=
  sampleRun [.started, .message (.connectNode { id := 2, info := sampleInfo })]

theorem runs_sampleRun {es : List HostEvent}
    (h : (es.foldlM (Host.step fun _ => "") sampleNew).isOk = true) :
    Runs (Step fun _ => "") sampleNew es (sampleRun es) := runs_finalState h

end Host

end RaftScaffold
