import RaftScaffold.Http.Entities

set_option autoImplicit false

/-! # Messages between the actors

`network/messages.rs` and the `NodeStatus` of `network/node.rs`: what `Network`, its `Node` actors and the HTTP
routes send each other. -/

namespace RaftScaffold

/-- The status of a `Node`; the number of a `failure` is an `i8`. -/
inductive NodeStatus where
  | initialized
  | weaklyConnected
  | connected
  | failure (attempts : Int8)
  | disconnected
  deriving DecidableEq, Repr

def NodeStatus.isConnected : NodeStatus → Bool
  | .connected => true
  | .weaklyConnected => true
  | _ => false

/-- The `Display` name of a status. -/
def NodeStatus.display : NodeStatus → String
  | .initialized => "Initialized"
  | .weaklyConnected => "WeaklyConnected"
  | .connected => "Connected"
  | .failure _ => "Failure"
  | .disconnected => "Disconnected"

structure HandleNodeStatusChange where
  id : NodeId
  status : NodeStatus
  deriving DecidableEq, Repr

structure ConnectNode where
  id : NodeId
  info : NodeInfo
  deriving DecidableEq, Repr

structure DisconnectNode where
  id : NodeId
  deriving DecidableEq, Repr

structure GetNode where
  nodeId : Option NodeId
  clusterAddress : Option String
  deriving DecidableEq, Repr

namespace GetNode

def forId (id : NodeId) : GetNode := { nodeId := some id, clusterAddress := none }

def forClusterAddress (address : String) : GetNode :=
  { nodeId := none, clusterAddress := some address }

end GetNode

structure GetCurrentLeader where
  attempts : UInt8
  deriving DecidableEq, Repr

namespace GetCurrentLeader

def default : GetCurrentLeader := { attempts := 3 }

def retry (self : GetCurrentLeader) : Except Unit GetCurrentLeader :=
  if 0 < self.attempts then .ok { attempts := self.attempts - 1 } else .error ()

end GetCurrentLeader

/-- `CurrentLeader`, the answer. -/
structure CurrentLeader where
  leader : Option NodeId
  deriving DecidableEq, Repr

structure Acknowledged where
  deriving DecidableEq, Repr

def Acknowledged.ofResponseResult : Entities.ResponseResult → Acknowledged
  | .connectionAcknowledged _ => {}
  | .acknowledged => {}

structure ChangeClusterConfig where
  addMembers : List NodeId
  removeMembers : List NodeId
  deriving DecidableEq, Repr

def ChangeClusterConfig.newToAddRemove (toAdd toRemove : List NodeId) : ChangeClusterConfig :=
  { addMembers := toAdd, removeMembers := toRemove }

def ChangeClusterConfig.newToAdd (toAdd : List NodeId) : ChangeClusterConfig :=
  ChangeClusterConfig.newToAddRemove toAdd []

end RaftScaffold
