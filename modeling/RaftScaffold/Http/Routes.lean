import RaftScaffold.Messages
import RaftScaffold.Transport.Decimal

set_option autoImplicit false

/-! # The HTTP routes

`ports/http/mod.rs` maps requests to routes and `ports/http/routes.rs` answers them. What a route gets from the
`Network` is a parameter: the reply to the message it sends, or the error of the network's mailbox. A route
that panics closes the connection without a response. -/

namespace RaftScaffold

open Transport

/-! ## The route table -/

inductive Endpoint where
  | allNodes
  | node (uid : String)
  | connectNode (uid : String)
  | disconnectNode (uid : String)
  | summary
  | appendEntries
  | installSnapshot
  | vote
  deriving DecidableEq, Repr

/-- The resources under the scope `/api/cluster`. The segment `{uid}` is never empty. -/
def clusterRoute (method : Method) : List String → Option Endpoint
  | [resource] =>
      if resource = "nodes" then some .allNodes
      else if resource = "" ∧ method = .get then some .summary
      else if resource = "entries" ∧ method = .post then some .appendEntries
      else if resource = "snapshots" ∧ method = .post then some .installSnapshot
      else if resource = "vote" ∧ method = .post then some .vote
      else none
  | [resource, uid] =>
      if resource = "nodes" ∧ uid ≠ "" then
        match method with
        | .get => some (.node uid)
        | .post => some (.connectNode uid)
        | .delete => some (.disconnectNode uid)
      else none
  | _ => none

def route (method : Method) : List String → Option Endpoint
  | api :: cluster :: segments =>
      if api = "api" ∧ cluster = "cluster" then clusterRoute method segments else none
  | _ => none

/-! ## Responses -/

variable {Body : Type} [HttpBody Body]

def created : Response Body := { status := 201, body := HttpBody.empty }

def noContent : Response Body := { status := 204, body := HttpBody.empty }

def okJson {α : Type} (codec : Codec Body α) (payload : α) : Response Body :=
  { status := 200, body := codec.encode payload }

def okEmpty : Response Body := { status := 200, body := HttpBody.empty }

/-- An error response renders the error's text. -/
def internalServerError (text : String) : Response Body := { status := 500, body := HttpBody.text text }

def badRequest (text : String) : Response Body := { status := 400, body := HttpBody.text text }

def notFound : Response Body := { status := 404, body := HttpBody.empty }

def payloadTooLarge (text : String) : Response Body := { status := 413, body := HttpBody.text text }

/-! ## The JSON extractor -/

/-- How many bytes `web::Json` reads. `start_server` configures no other limit than the default. -/
def jsonLimit : ℕ := 32768

/-- The body is short enough for the extractor. -/
def Fits (body : Body) : Prop := HttpBody.size body ≤ jsonLimit

instance (body : Body) : Decidable (Fits body) := inferInstanceAs (Decidable (_ ≤ _))

def jsonOverflow : String := "Json payload size is bigger than allowed"

theorem jsonOverflow_not_json : opensJson jsonOverflow = false := by decide

/-- `web::Json`: the route is not called for a body that is too long or does not decode. -/
def extractJson {α : Type} (codec : Codec Body α) (body : Body) : Except (Response Body) α :=
  if Fits body then (codec.decode body).mapError fun err => badRequest err.text
  else .error (payloadTooLarge jsonOverflow)

theorem extractJson_of_decode {α : Type} {codec : Codec Body α} {body : Body} {a : α} (hfits : Fits body)
    (hdecode : codec.decode body = .ok a) : extractJson codec body = .ok a := by
  simp only [extractJson, hfits, if_true, hdecode, Except.mapError]

theorem extractJson_overflow {α : Type} (codec : Codec Body α) {body : Body} (hfits : ¬ Fits body) :
    extractJson codec body = .error (payloadTooLarge jsonOverflow) := by
  simp only [extractJson, hfits, if_false]

/-! ## The routes -/

/-- `node_id_from_path`. -/
def nodeIdFromPath (uid : String) : Except ParseIntError UInt64 :=
  parseU64 (trimText uid.toList)

/-- `connect_node_route`. The id in the body is the one that is used; that it differs from the path is only
    logged. -/
def connectNodeRoute (request : Codec Body Entities.NodeInfoMessage)
    (network : ConnectNode → Except MailboxError (Except NetworkError Acknowledged))
    (uid : String) (body : Body) : Except Panic (Response Body) :=
  match extractJson request body with
  | .error resp => .ok resp
  | .ok message => do
      -- a mismatch with the body is only logged
      let _nid ← expect "valid numerical node id" (nodeIdFromPath uid).toOption
      let nodeId ← unwrap message.nodeId
      let nodeInfo ← unwrap message.nodeInfo
      match network { id := nodeId.toRaft, info := nodeInfo.toInfo } with
      | .error err => .ok (internalServerError err.display)
      | .ok (.ok _) => .ok created
      | .ok (.error err) => .ok (internalServerError err.display)

/-- `disconnect_node_route`. -/
def disconnectNodeRoute
    (network : DisconnectNode → Except MailboxError (Except NetworkError Acknowledged)) (uid : String) :
    Except Panic (Response Body) := do
  let nid ← expect "valid numerical node id" (nodeIdFromPath uid).toOption
  match network { id := nid } with
  | .error err => .ok (internalServerError err.display)
  | .ok (.ok _) => .ok noContent
  | .ok (.error err) => .ok (internalServerError err.display)

/-- `node_route`, whose response is a map with one entry. -/
def nodeRoute (response : Codec Body (List (NodeId × Option Entities.NodeInfo)))
    (network : GetNode → Except MailboxError (Except NetworkError (NodeId × Option NodeInfo)))
    (uid : String) : Except Panic (Response Body) := do
  let nid ← expect "valid numerical node id" (nodeIdFromPath uid).toOption
  match network (GetNode.forId nid) with
  | .error err => .ok (internalServerError err.display)
  | .ok (.ok (nodeId, nodeInfo)) =>
      let info := nodeInfo.map Entities.NodeInfo.ofInfo
      .ok (okJson response [(nodeId, info)])
  | .ok (.error err) => .ok (internalServerError err.display)

/-- What the three Raft routes have in common: a failed RPC is answered with an empty body. -/
def raftRoute {M R M0 R0 : Type} (ofEntity : M0 → Except Panic M) (intoEntity : R → R0)
    (request : Codec Body M0) (response : Codec Body R0)
    (network : M → Except MailboxError (Except Unit R)) (body : Body) :
    Except Panic (Response Body) :=
  match extractJson request body with
  | .error resp => .ok resp
  | .ok entity => do
      let message ← ofEntity entity
      match network message with
      | .error err => .ok (internalServerError err.display)
      | .ok (.ok resp) => .ok (okJson response (intoEntity resp))
      -- an error travels with status 200 and no body
      | .ok (.error _) => .ok okEmpty

def appendEntriesRoute {D : Type} (cbor : Cbor D)
    (request : Codec Body Entities.RaftAppendEntriesRequest)
    (response : Codec Body Entities.RaftAppendEntriesResponse)
    (network : AppendEntriesRequest D → Except MailboxError (Except Unit AppendEntriesResponse))
    (body : Body) : Except Panic (Response Body) :=
  raftRoute (Entities.RaftAppendEntriesRequest.toRaft cbor) Entities.RaftAppendEntriesResponse.ofRaft
    request response network body

def installSnapshotRoute (request : Codec Body Entities.RaftInstallSnapshotRequest)
    (response : Codec Body Entities.RaftInstallSnapshotResponse)
    (network : InstallSnapshotRequest → Except MailboxError (Except Unit InstallSnapshotResponse))
    (body : Body) : Except Panic (Response Body) :=
  raftRoute (fun entity => .ok (Entities.RaftInstallSnapshotRequest.toRaft entity))
    Entities.RaftInstallSnapshotResponse.ofRaft request response network body

def voteRoute (request : Codec Body Entities.RaftVoteRequest)
    (response : Codec Body Entities.RaftVoteResponse)
    (network : VoteRequest → Except MailboxError (Except Unit VoteResponse))
    (body : Body) : Except Panic (Response Body) :=
  raftRoute (fun entity => .ok (Entities.RaftVoteRequest.toRaft entity)) Entities.RaftVoteResponse.ofRaft
    request response network body

/-! ## Exchanges with a server -/

/-- A server: the response to each request, unless handling it panics. -/
abbrev HttpServer (Body : Type) : Type := Request Body → Except Panic (Response Body)

/-- Serve one endpoint with `handler` and leave the others to `rest`. -/
def serveAt (select : Endpoint → Option (Body → Except Panic (Response Body)))
    (rest : HttpServer Body) : HttpServer Body := fun req =>
  match (route req.method req.url.segments).bind select with
  | some handler => handler req.body
  | none => rest req

/-- Requests and replies are transported unchanged; a request whose handling panics ends in the client
    error `dropped` makes of it. -/
def transport (dropped : Panic → ClientError) (server : HttpServer Body) (req : Request Body) :
    Except ClientError (Response Body) :=
  match server req with
  | .ok resp => .ok resp
  | .error panic => .error (dropped panic)

end RaftScaffold
