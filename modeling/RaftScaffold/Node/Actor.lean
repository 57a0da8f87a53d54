import RaftScaffold.Node.Remote

set_option autoImplicit false

/-! # The Node actor

`network/node.rs` as a machine: a `Node` together with what its mailbox and context hold for it (pending
`Connect` messages, retry timers, spawned tasks) and what it has done so far (the reports it sent to the
network, the calls it made to its proximity). One event handles one message, fires one timer or polls one
task; an event that is not pending is not enabled, and a panic kills the actor. -/

namespace RaftScaffold

/-- Why a machine does not take an event: nothing is pending, or taking it panics. -/
inductive Halt where
  | notEnabled
  | panicked (panic : Panic)
  deriving DecidableEq, Repr

/-- Run code that may panic as a machine's step. -/
def orPanic {α : Type} (r : Except Panic α) : Except Halt α := r.mapError .panicked

@[simp] theorem orPanic_eq_ok {α : Type} (r : Except Panic α) (a : α) :
    orPanic r = .ok a ↔ r = .ok a := by
  cases r <;> simp [orPanic, Except.mapError]

structure Node where
  id : NodeId
  localId : NodeId
  proximity : Proximity
  status : NodeStatus
  localInfo : NodeInfo
  deriving DecidableEq, Repr

def Node.new (id : NodeId) (_info : NodeInfo) (localId : NodeId) (localInfo : NodeInfo)
    (proximity : Proximity) : Node :=
  { id, localId, proximity, status := .initialized, localInfo }

/-- The calls a `Node` makes to its proximity's connection behaviour. -/
inductive ProximityCall where
  | connect
  | disconnect
  deriving DecidableEq, Repr

structure NodeActor where
  node : Node
  /-- `Connect` messages not yet handled. -/
  connects : Nat
  /-- Retry timers not yet fired. -/
  timers : Nat
  /-- Spawned tasks about to run `handle_connect_result`. -/
  acks : Nat
  /-- The statuses reported to the network, oldest first. -/
  reports : List NodeStatus
  /-- The calls made to the proximity, oldest first. -/
  calls : List ProximityCall
  /-- The configuration changes submitted to Raft, oldest first. -/
  proposals : List ChangeClusterConfig
  stopped : Bool
  deriving DecidableEq, Repr

namespace NodeActor

/-- A started actor: `started` notifies it of the first `Connect`. -/
def start (node : Node) : NodeActor :=
  { node, connects := 1, timers := 0, acks := 0, reports := [], calls := [], proposals := [],
    stopped := false }

/-- `Node::apply_status_change`: the new status is sent to the network. -/
def applyStatusChange (self : NodeActor) (status : NodeStatus) : Except Panic NodeActor :=
  -- the field `status` is not written
  let report (newStatus : NodeStatus) : Except Panic NodeActor :=
    .ok { self with reports := self.reports ++ [newStatus] }
  match status with
  | .initialized =>
      .error ⟨"Node#" ++ toString self.node.id ++ " shouldn't go back to " ++ status.display ++
        " from " ++ self.node.status.display ++ "."⟩
  | .failure attempts => if 3 < attempts then report .disconnected else report status
  | .weaklyConnected => report status
  | .connected => report status
  | .disconnected => report status

/-- The status of the next failure. -/
def nextFailure (status : NodeStatus) : NodeStatus :=
  match status with
  | .failure attempts => .failure (attempts + 1)
  | _ => .failure 1

/-- `Node::connect`: the new state and the result that the spawned task will see. -/
def connect (self : NodeActor) (exchange : Except NodeError Acknowledged) :
    Except Panic (NodeActor × Except NodeError Acknowledged) :=
  if self.node.status.isConnected then .ok (self, .ok {})
  else
    -- a failure schedules the next `Connect`, a success is acknowledged by the task
    let called := { self with calls := self.calls ++ [ProximityCall.connect] }
    match self.node.proximity.connect exchange with
    | .error err => do
        let reported ← called.applyStatusChange (nextFailure self.node.status)
        .ok ({ reported with timers := reported.timers + 1 }, .error err)
    | .ok ack => do
        let reported ← called.applyStatusChange .weaklyConnected
        .ok (reported, .ok ack)

/-- `Handler<Connect>`: the task it spawns runs `handle_connect_result` if the connection was made. -/
def handleConnect (self : NodeActor) (exchange : Except NodeError Acknowledged) :
    Except Panic NodeActor := do
  let (connected, task) ← self.connect exchange
  match task with
  | .ok _ => .ok { connected with acks := connected.acks + 1 }
  | .error _ => .ok connected

/-- `Node::handle_connect_result`. -/
def handleConnectResult (self : NodeActor) : Except Panic NodeActor :=
  self.applyStatusChange .connected

/-- `Node::disconnect`. -/
def disconnect (self : NodeActor) : Except Panic NodeActor :=
  if self.node.status.isConnected then
    let called := { self with calls := self.calls ++ [ProximityCall.disconnect] }
    match self.node.proximity.disconnect with
    | .ok _ => called.applyStatusChange .disconnected
    | .error _ => called.applyStatusChange (nextFailure self.node.status)
  else .ok self

/-- `Handler<UpdateProximity>`. -/
def updateProximity (self : NodeActor) (proximity : Proximity) : NodeActor :=
  { self with node := { self.node with proximity } }

/-- `Handler<ChangeClusterConfig>`: the proximity's answer, and the proposal a local node submits. -/
def changeClusterConfig (self : NodeActor) (command : ChangeClusterConfig) :
    Except Panic (NodeActor × Except NetworkError Unit) := do
  let res ← self.node.proximity.changeClusterConfig command
  .ok ({ self with proposals := self.proposals ++ [command] }, res.mapError .nodeError)

/-- The three Raft RPC handlers change nothing. A remote proximity may panic on an entry that cannot be
    serialized, before anything is sent, or on the reply. -/
def raftRpc (self : NodeActor) (exchange : Except Panic (Except Transport.ClientError Unit)) :
    Except Panic NodeActor :=
  match self.node.proximity with
  | .localNode _ => .ok self
  | .remoteNode remote => do
      let reply ← exchange
      match reply with
      | .ok _ => .ok self
      | .error err => do
          remote.logRaftProtocolError err
          .ok self

end NodeActor

/-- What can happen to a running `Node` actor. An `exchange` is the outcome of an HTTP exchange, for an RPC with
    that of making its request. -/
inductive NodeEvent where
  | connect (exchange : Except NodeError Acknowledged)
  | connected
  | retry
  | disconnect
  | updateProximity (proximity : Proximity)
  | changeClusterConfig (command : ChangeClusterConfig)
  | raftRpc (exchange : Except Panic (Except Transport.ClientError Unit))
  | stopping

def NodeActor.step (self : NodeActor) (event : NodeEvent) : Except Halt NodeActor :=
  if self.stopped then .error .notEnabled
  else
    match event with
    | .connect exchange =>
        if self.connects = 0 then .error .notEnabled
        else orPanic ({ self with connects := self.connects - 1 }.handleConnect exchange)
    | .connected =>
        if self.acks = 0 then .error .notEnabled
        else orPanic ({ self with acks := self.acks - 1 }.handleConnectResult)
    | .retry =>
        if self.timers = 0 then .error .notEnabled
        else .ok { self with timers := self.timers - 1, connects := self.connects + 1 }
    | .disconnect => orPanic self.disconnect
    | .updateProximity proximity => .ok (self.updateProximity proximity)
    | .changeClusterConfig command => orPanic ((self.changeClusterConfig command).map Prod.fst)
    | .raftRpc exchange => orPanic (self.raftRpc exchange)
    | .stopping => orPanic (self.disconnect.map fun a => { a with stopped := true })

end RaftScaffold
