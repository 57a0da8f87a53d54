import RaftScaffold.Messages

set_option autoImplicit false

/-! # The proximity of a node

A `Node` reaches the node it stands for through its *proximity*: `LocalNode` talks to the Raft actor of this
process, `RemoteNode` sends HTTP requests to another one (`network/node/local.rs`,
`network/node/remote.rs`, `raft/network/node/remote.rs`). The HTTP client is a parameter `send` of the
functions that use it; what it does is up to the network and the peer. -/

namespace RaftScaffold

open Transport

structure LocalNode where
  id : NodeId
  raft : RaftAddr
  deriving DecidableEq, Repr

structure RemoteNode where
  remoteId : NodeId
  remoteInfo : NodeInfo
  deriving DecidableEq, Repr

namespace RemoteNode

variable {Body : Type}

/-- `http://{cluster_address}/api/cluster`. -/
def scope (self : RemoteNode) : Url :=
  { authority := self.remoteInfo.clusterAddress, segments := ["api", "cluster"] }

/-- The `Debug` form of a remote node. -/
def debug (self : RemoteNode) : String :=
  "RemoteNode#" ++ toString self.remoteId ++ "(to:http://" ++ self.remoteInfo.clusterAddress ++
    "/api/cluster)"

def convertError (self : RemoteNode) (error : ClientError) : NodeError :=
  if error.isTimeout then .timeout error.text
  else if error.isSerialization then .responseFailure error.text
  else if error.isClientError then .requestError error
  else if error.isHttp then .requestError error
  else if error.isServerError then .responseFailure ("Error in " ++ self.debug ++ " server")
  else if error.isRedirect then
    .unknown ("TODO: PROPERLY HANDLE REDIRECT; E.G., IF REMOTE IS NOT LEADER: " ++ error.text)
  else .requestError error

/-- `RemoteNode::connect`: register the local node with the peer. The path names the peer, the body the
    local node; the reply is decoded as a `RaftProtocolResponse`. -/
def connect (self : RemoteNode) (request : Codec Body Entities.NodeInfoMessage)
    (response : Codec Body Entities.RaftProtocolResponse)
    (send : Request Body → Except ClientError (Response Body)) (localIdInfo : NodeId × NodeInfo) :
    Except NodeError Acknowledged :=
  let registerNodeRoute := self.scope.join ["nodes", toString self.remoteId]
  let body : Entities.NodeInfoMessage :=
    { nodeId := some (Entities.NodeId.ofRaft localIdInfo.1)
      nodeInfo := some (Entities.NodeInfo.ofInfo localIdInfo.2) }
  match send { method := .post, url := registerNodeRoute, body := request.encode body } with
  | .error err => .error (self.convertError err)
  | .ok resp =>
      match response.decode resp.body with
      | .error err => .error (self.convertError err)
      | .ok cresp =>
          match cresp.response with
          | some (.result r) => .ok (Acknowledged.ofResponseResult r)
          | some (.failure f) => .error (.responseFailure f.description)
          | some (.commandRejectedNotLeader leader) =>
              .error (.remoteNotLeaderError (leader.leaderId.map Entities.NodeId.toRaft))
          | none => .error (.unknown "good ChangeClusterResponse had empty response")

/-- `RemoteNode::log_raft_protocol_error`: logs, except that a serialization error panics. -/
def logRaftProtocolError (_self : RemoteNode) (error : ClientError) : Except Panic Unit :=
  if error.isTimeout then .ok ()
  -- `panic!(e)`, marked as a temporary aid for debugging
  else if error.isSerialization then .error ⟨error.text⟩
  else .ok ()

/-- `RemoteNode::send_raft_command`, generic in the RPC: `M` and `R` are its messages, `M0` and `R0` their
    entities. -/
def sendRaftCommand {M R M0 R0 : Type} (self : RemoteNode) (intoEntity : M → Except Panic M0)
    (ofEntity : R0 → R) (request : Codec Body M0) (response : Codec Body R0)
    (send : Request Body → Except ClientError (Response Body)) (command : M) (path : String) :
    Except Panic (Except Unit R) := do
  let route := self.scope.join [path]
  let body ← intoEntity command
  match (send { method := .post, url := route, body := request.encode body }).bind
      (fun resp => response.decode resp.body) with
  | .error err => do
      self.logRaftProtocolError err
      .ok (.error ())
  | .ok resp => .ok (.ok (ofEntity resp))

end RemoteNode

/-- `Box<dyn ProximityBehavior>`: the two implementations. -/
inductive Proximity where
  | localNode (node : LocalNode)
  | remoteNode (node : RemoteNode)
  deriving DecidableEq, Repr

namespace Proximity

/-- `ConnectionBehavior::connect`; `exchange` is the outcome of the HTTP exchange a remote node makes. -/
def connect (self : Proximity) (exchange : Except NodeError Acknowledged) :
    Except NodeError Acknowledged :=
  match self with
  | .localNode _ => .ok {}
  | .remoteNode _ => exchange

/-- `ConnectionBehavior::disconnect`, which neither implementation can fail. -/
def disconnect (self : Proximity) : Except NodeError Unit :=
  match self with
  | .localNode _ => .ok ()
  | .remoteNode _ => .ok ()

/-- `ChangeClusterBehavior::change_cluster_config`: the local node spawns the proposal and returns at
    once, the remote one is `unimplemented!()`. -/
def changeClusterConfig (self : Proximity) (_command : ChangeClusterConfig) :
    Except Panic (Except NodeError Unit) :=
  match self with
  | .localNode _ => .ok (.ok ())
  | .remoteNode _ => .error ⟨"not implemented"⟩

end Proximity

end RaftScaffold
