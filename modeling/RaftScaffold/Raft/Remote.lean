import RaftScaffold.Raft.Gate
import RaftScaffold.Http.Routes

set_option autoImplicit false

/-! # The Raft RPCs over HTTP

`raft/network/node/remote.rs`: a `Node` whose network runs elsewhere sends it the Raft RPCs over HTTP. The peer's
route hands the request to its `Network`, which forwards it to the node of the target (`Raft/Gate`) and answers.

Only an answer `Ok(r)` has a wire form. `Err(())` travels as an empty body, which the sender cannot decode, and
`log_raft_protocol_error` panics on what cannot be decoded, which is also what becomes of a request that is too
long for the peer's extractor. So an RPC has the outcome it would have in the peer's process exactly when the
node of its target answers it and the request fits (`raftRpcs_transparent_iff`). -/

namespace RaftScaffold

open Transition Transport

/-- How a network, or a node, answers the three RPCs. -/
structure RaftAnswers (D : Type) where
  appendEntries : AppendEntriesRequest D → Except MailboxError (Except Unit AppendEntriesResponse)
  installSnapshot : InstallSnapshotRequest → Except MailboxError (Except Unit InstallSnapshotResponse)
  vote : VoteRequest → Except MailboxError (Except Unit VoteResponse)

/-! ## The receiver -/

/-- What forwarding to a node resolves to: the node's answer. That it was not delivered is only logged. -/
def forwarded {R : Type} : Except MailboxError (Except Unit R) → Except Unit R
  | .error _ => .error ()
  | .ok res => res

namespace Network

variable {D : Type}

/-- What the future of `Handler<AppendEntriesRequest>` resolves to, with the answers of the node actors. -/
def resolveAppendEntries (self : Network) (nodes : Addr → RaftAnswers D) (msg : AppendEntriesRequest D) :
    Except Unit AppendEntriesResponse := do
  let node ← self.handleAppendEntries msg
  forwarded ((nodes node).appendEntries msg)

/-- What the future of `Handler<VoteRequest>` resolves to. -/
def resolveVote (self : Network) (nodes : Addr → RaftAnswers D) (msg : VoteRequest) :
    Except Unit VoteResponse := do
  let node ← self.handleVote msg
  forwarded ((nodes node).vote msg)

/-- What the future of `Handler<InstallSnapshotRequest>` resolves to, unless the network panics. -/
def resolveInstallSnapshot (accepted polled : Network) (nodes : Addr → RaftAnswers D)
    (msg : InstallSnapshotRequest) : Except Panic (Except Unit InstallSnapshotResponse) := do
  let routed ← accepted.handleInstallSnapshot polled msg
  .ok do
    let node ← routed
    forwarded ((nodes node).installSnapshot msg)

end Network

/-- What a sender to the network sees of a handler: a network that panics closes its mailbox. -/
def mailboxAnswer {R : Type} : Except Panic (Except Unit R) → Except MailboxError (Except Unit R)
  | .error _ => .error .closed
  | .ok res => .ok res

/-- The answers of a network: `accepted` accepts the message, and `polled` runs its future. -/
def Network.raftAnswers {D : Type} (accepted polled : Network) (nodes : Addr → RaftAnswers D) :
    RaftAnswers D where
  appendEntries msg := mailboxAnswer (.ok (accepted.resolveAppendEntries nodes msg))
  installSnapshot msg := mailboxAnswer (accepted.resolveInstallSnapshot polled nodes msg)
  vote msg := mailboxAnswer (.ok (accepted.resolveVote nodes msg))

/-! ## The wire -/

/-- The JSON codecs of the three RPCs. -/
structure RaftCodecs (Body : Type) where
  appendEntriesRequest : Codec Body Entities.RaftAppendEntriesRequest
  appendEntriesResponse : Codec Body Entities.RaftAppendEntriesResponse
  installSnapshotRequest : Codec Body Entities.RaftInstallSnapshotRequest
  installSnapshotResponse : Codec Body Entities.RaftInstallSnapshotResponse
  voteRequest : Codec Body Entities.RaftVoteRequest
  voteResponse : Codec Body Entities.RaftVoteResponse

structure RaftCodecs.Lawful {Body : Type} [HttpBody Body] (codecs : RaftCodecs Body) : Prop where
  appendEntriesRequest : codecs.appendEntriesRequest.Lawful
  appendEntriesResponse : codecs.appendEntriesResponse.Lawful
  installSnapshotRequest : codecs.installSnapshotRequest.Lawful
  installSnapshotResponse : codecs.installSnapshotResponse.Lawful
  voteRequest : codecs.voteRequest.Lawful
  voteResponse : codecs.voteResponse.Lawful

section Wire

variable {Body D : Type} [HttpBody Body]

namespace RemoteNode

def appendEntries (self : RemoteNode) (cbor : Cbor D) (codecs : RaftCodecs Body)
    (send : Request Body → Except ClientError (Response Body)) (rpc : AppendEntriesRequest D) :
    Except Panic (Except Unit AppendEntriesResponse) :=
  self.sendRaftCommand (Entities.RaftAppendEntriesRequest.ofRaft cbor)
    Entities.RaftAppendEntriesResponse.toRaft codecs.appendEntriesRequest codecs.appendEntriesResponse send
    rpc "entries"

def installSnapshot (self : RemoteNode) (codecs : RaftCodecs Body)
    (send : Request Body → Except ClientError (Response Body)) (rpc : InstallSnapshotRequest) :
    Except Panic (Except Unit InstallSnapshotResponse) :=
  self.sendRaftCommand (fun rpc => .ok (Entities.RaftInstallSnapshotRequest.ofRaft rpc))
    Entities.RaftInstallSnapshotResponse.toRaft codecs.installSnapshotRequest
    codecs.installSnapshotResponse send rpc "snapshots"

def vote (self : RemoteNode) (codecs : RaftCodecs Body)
    (send : Request Body → Except ClientError (Response Body)) (rpc : VoteRequest) :
    Except Panic (Except Unit VoteResponse) :=
  self.sendRaftCommand (fun rpc => .ok (Entities.RaftVoteRequest.ofRaft rpc))
    Entities.RaftVoteResponse.toRaft codecs.voteRequest codecs.voteResponse send rpc "vote"

end RemoteNode

/-- The server of a network that answers the RPCs as `network` says. -/
def raftServer (cbor : Cbor D) (codecs : RaftCodecs Body) (network : RaftAnswers D)
    (rest : HttpServer Body) : HttpServer Body :=
  serveAt
    (fun
      | .appendEntries => some (appendEntriesRoute cbor codecs.appendEntriesRequest
          codecs.appendEntriesResponse network.appendEntries)
      | .installSnapshot => some (installSnapshotRoute codecs.installSnapshotRequest
          codecs.installSnapshotResponse network.installSnapshot)
      | .vote => some (voteRoute codecs.voteRequest codecs.voteResponse network.vote)
      | _ => none)
    rest

end Wire

/-! ## One RPC -/

/-- An RPC is *transparent* when its sender gets the outcome at the receiver, if there is one, and never
    panics. -/
structure Transparent {R : Type} (outcome sent : Except Panic (Except Unit R)) : Prop where
  answered : ∀ r, outcome = .ok (.ok r) → sent = .ok (.ok r)
  rejected : outcome = .ok (.error ()) → sent = .ok (.error ())
  survives : ∀ panic, sent ≠ .error panic

section Rpc

variable {Body M R M0 R0 : Type} {intoEntity : M → Except Panic M0} {ofEntity : M0 → Except Panic M}
  {replyInto : R → R0} {replyOf : R0 → R} {request : Codec Body M0} {response : Codec Body R0}

namespace RemoteNode

theorem sendRaftCommand_of_decode (remote : RemoteNode)
    {send : Request Body → Except ClientError (Response Body)} {path : String} {command : M} {entity : M0}
    {resp : Response Body} {reply : R0} (hinto : intoEntity command = .ok entity)
    (hsend : send { method := .post, url := remote.scope.join [path], body := request.encode entity } =
      .ok resp)
    (hdecode : response.decode resp.body = .ok reply) :
    remote.sendRaftCommand intoEntity replyOf request response send command path =
      .ok (.ok (replyOf reply)) := by
  simp only [sendRaftCommand, hinto, hsend, hdecode, bind, Except.bind]

/-- **A reply that is not JSON makes the sender panic.** -/
theorem sendRaftCommand_of_serialization (remote : RemoteNode)
    {send : Request Body → Except ClientError (Response Body)} {path : String} {command : M} {entity : M0}
    {resp : Response Body} (hinto : intoEntity command = .ok entity)
    (hsend : send { method := .post, url := remote.scope.join [path], body := request.encode entity } =
      .ok resp)
    (hdecode : ∃ err, response.decode resp.body = .error err ∧ err.isSerialization = true) :
    ∃ panic, remote.sendRaftCommand intoEntity replyOf request response send command path =
      .error panic := by
  obtain ⟨err, herr, hser⟩ := hdecode
  have hlog : remote.logRaftProtocolError err = .error ⟨err.text⟩ := by
    simp [logRaftProtocolError, hser, ClientError.isTimeout_of_isSerialization hser]
  exact ⟨⟨err.text⟩, by simp only [sendRaftCommand, hinto, hsend, herr, hlog, bind, Except.bind]⟩

end RemoteNode

variable [HttpBody Body]

/-- The body of a Raft route's response to a request that its network answers with `answer`. -/
def replyBody (replyInto : R → R0) (response : Codec Body R0) :
    Except MailboxError (Except Unit R) → Body
  | .error err => HttpBody.text err.display
  | .ok (.ok r) => response.encode (replyInto r)
  | .ok (.error _) => HttpBody.empty

theorem raftRoute_eq (hreq : request.Lawful) {command : M} {entity : M0}
    (hof : ofEntity entity = .ok command) (hfits : Fits (request.encode entity))
    (network : M → Except MailboxError (Except Unit R)) :
    ∃ resp, raftRoute ofEntity replyInto request response network (request.encode entity) = .ok resp ∧
      resp.body = replyBody replyInto response (network command) := by
  unfold raftRoute
  rw [extractJson_of_decode hfits (hreq.roundTrip entity)]
  simp only [hof, bind, Except.bind]
  cases network command with
  | error err => exact ⟨_, rfl, rfl⟩
  | ok res =>
      cases res with
      | ok r => exact ⟨_, rfl, rfl⟩
      | error u => exact ⟨_, rfl, rfl⟩

/-- The network is not asked when the request is too long. -/
theorem raftRoute_overflow (network : M → Except MailboxError (Except Unit R)) {body : Body}
    (hfits : ¬ Fits body) :
    raftRoute ofEntity replyInto request response network body = .ok (payloadTooLarge jsonOverflow) := by
  unfold raftRoute
  rw [extractJson_overflow request hfits]

/-- The extractor of the peer reads the request that carries `command`. -/
def RequestFits (intoEntity : M → Except Panic M0) (request : Codec Body M0) (command : M) : Prop :=
  ∃ entity, intoEntity command = .ok entity ∧ Fits (request.encode entity)

theorem requestFits_iff {command : M} {entity : M0} (hinto : intoEntity command = .ok entity) :
    RequestFits intoEntity request command ↔ Fits (request.encode entity) := by
  simp [RequestFits, hinto]

/-- Only an answer `Ok(r)` has a body that decodes. -/
theorem decode_replyBody (hresp : response.Lawful) (answer : Except MailboxError (Except Unit R)) :
    (∃ r, answer = .ok (.ok r) ∧
        response.decode (replyBody replyInto response answer) = .ok (replyInto r)) ∨
      (∀ r, answer ≠ .ok (.ok r)) ∧ ∃ err,
        response.decode (replyBody replyInto response answer) = .error err ∧
          err.isSerialization = true := by
  rcases answer with err | _ | r
  · exact .inr ⟨fun r hr => (by cases hr), hresp.text _ err.display_not_json⟩
  · exact .inr ⟨fun r hr => (by cases hr), hresp.empty⟩
  · exact .inl ⟨r, rfl, hresp.roundTrip _⟩

/-- **What the sender of an RPC gets.** If the peer reads the request and its network answers with `Ok(r)`, the sender
    gets that; otherwise it panics. -/
theorem RemoteNode.sendRaftCommand_cases (hreq : request.Lawful) (hresp : response.Lawful)
    (hconv : RoundTrips intoEntity ofEntity) (hreply : ∀ r, replyOf (replyInto r) = r) (remote : RemoteNode)
    {network : M → Except MailboxError (Except Unit R)}
    {send : Request Body → Except ClientError (Response Body)} {path : String}
    (hsend : ∀ body resp, raftRoute ofEntity replyInto request response network body = .ok resp →
      send { method := .post, url := remote.scope.join [path], body } = .ok resp)
    (command : M) :
    (∃ r, RequestFits intoEntity request command ∧ network command = .ok (.ok r) ∧
        remote.sendRaftCommand intoEntity replyOf request response send command path = .ok (.ok r)) ∨
      (∀ r, RequestFits intoEntity request command → network command ≠ .ok (.ok r)) ∧
        ∃ panic, remote.sendRaftCommand intoEntity replyOf request response send command path =
          .error panic := by
  obtain ⟨entity, hinto, hof⟩ := hconv command
  rw [requestFits_iff hinto]
  by_cases hfits : Fits (request.encode entity)
  · obtain ⟨resp, hroute, hbody⟩ : ∃ resp,
        raftRoute ofEntity replyInto request response network (request.encode entity) = .ok resp ∧
          resp.body = replyBody replyInto response (network command) := raftRoute_eq hreq hof hfits network
    have hreached := hsend _ _ hroute
    rcases decode_replyBody hresp (network command) with ⟨r, hanswer, hdecode⟩ | ⟨hnone, hdecode⟩
    · refine .inl ⟨r, hfits, hanswer, ?_⟩
      rw [remote.sendRaftCommand_of_decode hinto hreached (hbody ▸ hdecode), hreply]
    · exact .inr ⟨fun r _ => hnone r,
        remote.sendRaftCommand_of_serialization hinto hreached (hbody ▸ hdecode)⟩
  · -- the extractor answers with a text
    have hreached := hsend _ _ (raftRoute_overflow network hfits)
    exact .inr ⟨fun _ h => absurd h hfits,
      remote.sendRaftCommand_of_serialization hinto hreached (hresp.text _ jsonOverflow_not_json)⟩

theorem mailboxAnswer_eq_ok {outcome : Except Panic (Except Unit R)} {res : Except Unit R} :
    mailboxAnswer outcome = .ok res ↔ outcome = .ok res := by
  cases outcome with
  | error panic => simp [mailboxAnswer]
  | ok res' => simp [mailboxAnswer]

/-- **An RPC is transparent iff the receiver reads and answers it.** The sender's requests to `path` reach the
    Raft route of a network whose answer to `command` is the `outcome` of its handler. -/
theorem transparent_sendRaftCommand_iff (hreq : request.Lawful) (hresp : response.Lawful)
    (hconv : RoundTrips intoEntity ofEntity) (hreply : ∀ r, replyOf (replyInto r) = r)
    (remote : RemoteNode) {network : M → Except MailboxError (Except Unit R)}
    {send : Request Body → Except ClientError (Response Body)} {path : String}
    (hsend : ∀ body resp, raftRoute ofEntity replyInto request response network body = .ok resp →
      send { method := .post, url := remote.scope.join [path], body } = .ok resp)
    {command : M} {outcome : Except Panic (Except Unit R)}
    (houtcome : network command = mailboxAnswer outcome) :
    Transparent outcome
        (remote.sendRaftCommand intoEntity replyOf request response send command path) ↔
      (∃ r, outcome = .ok (.ok r)) ∧ RequestFits intoEntity request command := by
  rcases remote.sendRaftCommand_cases hreq hresp hconv hreply hsend command with
    ⟨r, hfits, hanswer, hsent⟩ | ⟨hnone, panic, hpanic⟩
  · -- the receiver answered: its reply survives the wire
    obtain rfl := mailboxAnswer_eq_ok.1 (houtcome.symm.trans hanswer)
    refine iff_of_true ⟨fun r' hr' => ?_, fun hr => ?_, fun panic hpanic => ?_⟩ ⟨⟨r, rfl⟩, hfits⟩
    · rw [hsent, hr']
    · cases hr
    · rw [hsent] at hpanic
      cases hpanic
  · -- it did not, and the sender panics
    refine iff_of_false (fun htransparent => htransparent.survives panic hpanic) ?_
    rintro ⟨⟨r, rfl⟩, hfits⟩
    exact hnone r hfits houtcome

end Rpc

/-! ## The three RPCs -/

section Fitting

variable {Body D : Type} [HttpBody Body] (codecs : RaftCodecs Body)

/-- The extractors read the request for an RPC. -/
def AppendEntriesRequest.Fitting (cbor : Cbor D) (msg : AppendEntriesRequest D) : Prop :=
  RequestFits (Entities.RaftAppendEntriesRequest.ofRaft cbor) codecs.appendEntriesRequest msg

def InstallSnapshotRequest.Fitting (msg : InstallSnapshotRequest) : Prop :=
  Fits (codecs.installSnapshotRequest.encode (Entities.RaftInstallSnapshotRequest.ofRaft msg))

def VoteRequest.Fitting (msg : VoteRequest) : Prop :=
  Fits (codecs.voteRequest.encode (Entities.RaftVoteRequest.ofRaft msg))

end Fitting

/-- `accepted` lets a message from `sender` to `target` pass, and the node that `polled` has for the target
    answers it with `Ok(r)`; `reply` gives the answers of the nodes. -/
structure AnsweredBy {R : Type} (accepted polled : Network) (target sender : NodeId)
    (reply : Addr → Except MailboxError (Except Unit R)) : Prop where
  known : target ∈ accepted.nodes
  targetConnected : target ∉ accepted.state.isolatedNodes
  senderConnected : sender ∉ accepted.state.isolatedNodes
  answer : ∃ addr r, polled.getNode target = some addr ∧ reply addr = .ok (.ok r)

theorem forwarded_eq_ok {R : Type} {answer : Except MailboxError (Except Unit R)} {r : R} :
    forwarded answer = .ok r ↔ answer = .ok (.ok r) := by
  cases answer with
  | error err => simp [forwarded]
  | ok res => simp [forwarded]

/-- What passes the gate is answered iff the target's node answers it. -/
theorem gate_forwarded_iff {R : Type} (network : Network) (target sender : NodeId)
    (reply : Addr → Except MailboxError (Except Unit R)) :
    (∃ r, (do let node ← network.gate target sender; forwarded (reply node)) = .ok r) ↔
      AnsweredBy network network target sender reply := by
  constructor
  · rintro ⟨r, hr⟩
    cases hgate : network.gate target sender with
    | error u => rw [hgate] at hr; cases hr
    | ok addr =>
        rw [hgate] at hr
        obtain ⟨haddr, htarget, hsender⟩ := Network.gate_eq_ok.1 hgate
        exact ⟨Network.mem_nodes_of_getNode (by rw [haddr]; rfl), htarget, hsender, addr, r, haddr,
          forwarded_eq_ok.1 hr⟩
  · rintro ⟨-, htarget, hsender, addr, r, haddr, hreply⟩
    refine ⟨r, ?_⟩
    rw [Network.gate_eq_ok.2 ⟨haddr, htarget, hsender⟩]
    exact forwarded_eq_ok.2 hreply

theorem resolveInstallSnapshot_iff {D : Type} (accepted polled : Network) (nodes : Addr → RaftAnswers D)
    (msg : InstallSnapshotRequest) :
    (∃ r, accepted.resolveInstallSnapshot polled nodes msg = .ok (.ok r)) ↔
      AnsweredBy accepted polled msg.target msg.leaderId fun addr => (nodes addr).installSnapshot msg := by
  unfold Network.resolveInstallSnapshot
  constructor
  · rintro ⟨r, hr⟩
    cases hrouted : accepted.handleInstallSnapshot polled msg with
    | error panic => rw [hrouted] at hr; cases hr
    | ok routed =>
        rw [hrouted] at hr
        cases routed with
        | error u => cases hr
        | ok addr =>
            obtain ⟨⟨hmem, htarget, hsender⟩, haddr⟩ := Network.handleInstallSnapshot_eq_ok.1 hrouted
            exact ⟨hmem, htarget, hsender, addr, r, haddr, forwarded_eq_ok.1 (Except.ok.inj hr)⟩
  · rintro ⟨hmem, htarget, hsender, addr, r, haddr, hreply⟩
    refine ⟨r, ?_⟩
    rw [Network.handleInstallSnapshot_eq_ok.2 ⟨⟨hmem, htarget, hsender⟩, haddr⟩]
    exact congrArg Except.ok (forwarded_eq_ok.2 hreply)

theorem ok_ok_iff {R : Type} {outcome : Except Unit R} :
    (∃ r, (.ok outcome : Except Panic (Except Unit R)) = .ok (.ok r)) ↔ ∃ r, outcome = .ok r := by
  simp only [Except.ok.injEq]

section Exchange

variable {Body D : Type} [HttpBody Body]

/-- The HTTP exchanges with a network whose nodes answer as `nodes` says. -/
def raftExchange (cbor : Cbor D) (codecs : RaftCodecs Body) (accepted polled : Network)
    (nodes : Addr → RaftAnswers D) (rest : HttpServer Body) (dropped : Panic → ClientError) :
    Request Body → Except ClientError (Response Body) :=
  transport dropped (raftServer cbor codecs (accepted.raftAnswers polled nodes) rest)

/-- **When the Raft RPCs are transparent.** For every request and every state of the receiving network, the
    sender of a remote RPC gets the outcome at the receiver and does not panic if and only if the target is
    in the receiver's table, neither end is isolated, the target's node is started and answers with `Ok(r)`, and
    the encoded request is within the limit of the receiver's extractor. Every `Err(())` at the receiver, and
    every request above the limit, makes the sender panic. -/
theorem raftRpcs_transparent_iff (cbor : Cbor D) (codecs : RaftCodecs Body) (hcbor : cbor.Lawful)
    (hcodecs : codecs.Lawful) (remote : RemoteNode) (accepted polled : Network)
    (nodes : Addr → RaftAnswers D) (rest : HttpServer Body) (dropped : Panic → ClientError) :
    (∀ msg : AppendEntriesRequest D,
      Transparent (.ok (accepted.resolveAppendEntries nodes msg))
          (remote.appendEntries cbor codecs
            (raftExchange cbor codecs accepted polled nodes rest dropped) msg) ↔
        AnsweredBy accepted accepted msg.target msg.leaderId
            (fun addr => (nodes addr).appendEntries msg) ∧
          msg.Fitting codecs cbor) ∧
    (∀ msg : InstallSnapshotRequest,
      Transparent (accepted.resolveInstallSnapshot polled nodes msg)
          (remote.installSnapshot codecs
            (raftExchange cbor codecs accepted polled nodes rest dropped) msg) ↔
        AnsweredBy accepted polled msg.target msg.leaderId
            (fun addr => (nodes addr).installSnapshot msg) ∧
          msg.Fitting codecs) ∧
    ∀ msg : VoteRequest,
      Transparent (.ok (accepted.resolveVote nodes msg))
          (remote.vote codecs (raftExchange cbor codecs accepted polled nodes rest dropped) msg) ↔
        AnsweredBy accepted accepted msg.target msg.candidateId (fun addr => (nodes addr).vote msg) ∧
          msg.Fitting codecs := by
  have hreached : ∀ {server : HttpServer Body} {req : Request Body} {resp : Response Body},
      server req = .ok resp → transport dropped server req = .ok resp := by
    intro server req resp h
    simp only [transport, h]
  refine ⟨fun msg => ?_, fun msg => ?_, fun msg => ?_⟩
  · refine (transparent_sendRaftCommand_iff hcodecs.appendEntriesRequest hcodecs.appendEntriesResponse
      (Entities.RaftAppendEntriesRequest.roundTrips hcbor)
      Entities.RaftAppendEntriesResponse.toRaft_ofRaft remote
      (fun body resp h => hreached h) rfl).trans ?_
    exact and_congr_left' (ok_ok_iff.trans (gate_forwarded_iff _ _ _ _))
  · refine (transparent_sendRaftCommand_iff hcodecs.installSnapshotRequest
      hcodecs.installSnapshotResponse (fun _ => ⟨_, rfl, rfl⟩)
      Entities.RaftInstallSnapshotResponse.toRaft_ofRaft remote
      (fun body resp h => hreached h) rfl).trans ?_
    exact and_congr (resolveInstallSnapshot_iff _ _ _ _) (requestFits_iff rfl)
  · refine (transparent_sendRaftCommand_iff hcodecs.voteRequest hcodecs.voteResponse
      (fun _ => ⟨_, rfl, rfl⟩) Entities.RaftVoteResponse.toRaft_ofRaft remote
      (fun body resp h => hreached h) rfl).trans ?_
    exact and_congr (ok_ok_iff.trans (gate_forwarded_iff _ _ _ _)) (requestFits_iff rfl)

end Exchange

/-! ## Sample exchanges -/

/-- What the bodies of the three RPCs carry. -/
inductive RaftEntity where
  | appendEntriesRequest (entity : Entities.RaftAppendEntriesRequest)
  | appendEntriesResponse (entity : Entities.RaftAppendEntriesResponse)
  | installSnapshotRequest (entity : Entities.RaftInstallSnapshotRequest)
  | installSnapshotResponse (entity : Entities.RaftInstallSnapshotResponse)
  | voteRequest (entity : Entities.RaftVoteRequest)
  | voteResponse (entity : Entities.RaftVoteResponse)

def sampleCodecs : RaftCodecs (SimpleBody RaftEntity) where
  appendEntriesRequest :=
    SimpleBody.codec .appendEntriesRequest (fun | .appendEntriesRequest e => some e | _ => none)
      fun e => 120 + 100 * e.entries.length
  appendEntriesResponse :=
    SimpleBody.codec .appendEntriesResponse (fun | .appendEntriesResponse e => some e | _ => none)
      fun _ => 60
  installSnapshotRequest :=
    SimpleBody.codec .installSnapshotRequest (fun | .installSnapshotRequest e => some e | _ => none)
      fun e => 140 + 4 * e.data.length
  installSnapshotResponse :=
    SimpleBody.codec .installSnapshotResponse (fun | .installSnapshotResponse e => some e | _ => none)
      fun _ => 20
  voteRequest := SimpleBody.codec .voteRequest (fun | .voteRequest e => some e | _ => none) fun _ => 90
  voteResponse := SimpleBody.codec .voteResponse (fun | .voteResponse e => some e | _ => none) fun _ => 60

theorem sampleCodecs_lawful : sampleCodecs.Lawful where
  appendEntriesRequest := SimpleBody.codec_lawful _ _ _ fun _ => rfl
  appendEntriesResponse := SimpleBody.codec_lawful _ _ _ fun _ => rfl
  installSnapshotRequest := SimpleBody.codec_lawful _ _ _ fun _ => rfl
  installSnapshotResponse := SimpleBody.codec_lawful _ _ _ fun _ => rfl
  voteRequest := SimpleBody.codec_lawful _ _ _ fun _ => rfl
  voteResponse := SimpleBody.codec_lawful _ _ _ fun _ => rfl

/-- A node that accepts whatever it is asked. -/
def sampleAnswers : RaftAnswers Bool where
  appendEntries msg := .ok (.ok { term := msg.term, success := true, conflictOpt := none })
  installSnapshot msg := .ok (.ok { term := msg.term })
  vote msg := .ok (.ok { term := msg.term, voteGranted := true, isCandidateUnknown := false })

/-- The exchanges with a network that accepts the messages in its state `h` and runs their futures in `h'`. -/
def sampleExchange (h h' : Host) (nodes : Addr → RaftAnswers Bool) :
    Request (SimpleBody RaftEntity) → Except ClientError (Response (SimpleBody RaftEntity)) :=
  raftExchange boolCbor sampleCodecs h.network h'.network nodes (fun _ => .ok notFound)
    fun panic => ⟨.other, panic.message⟩

def samplePeer : RemoteNode := { remoteId := 2, remoteInfo := Host.sampleInfo }

def sampleVote (target : NodeId) : VoteRequest :=
  { target, term := 3, candidateId := 1, lastLogIndex := 0, lastLogTerm := 0 }

/-- The vote of a node that joined reaches the candidate. -/
theorem raftRpcs_transparent_vote :
    Transparent (.ok (Host.sampleJoined.network.resolveVote (fun _ => sampleAnswers) (sampleVote 2)))
      (samplePeer.vote sampleCodecs
        (sampleExchange Host.sampleJoined Host.sampleJoined fun _ => sampleAnswers) (sampleVote 2)) :=
  ((raftRpcs_transparent_iff boolCbor sampleCodecs boolCbor_lawful sampleCodecs_lawful samplePeer
    Host.sampleJoined.network Host.sampleJoined.network (fun _ => sampleAnswers) (fun _ => .ok notFound)
    fun panic => ⟨.other, panic.message⟩).2.2 (sampleVote 2)).2
    ⟨⟨by decide, by decide, by decide, ⟨0⟩, _, by decide, rfl⟩, show Fits _ by decide⟩

/-- A vote asked of a node that the receiver does not know makes the sender panic. -/
theorem raftRpcs_transparent_fails :
    ¬ ∀ (sha256 : String → String) (h h' : Host) (es : List HostEvent) (nodes : Addr → RaftAnswers Bool),
      Host.Reachable sha256 h → Runs (Host.Step sha256) h es h' →
      (∀ msg, Transparent (.ok (h.network.resolveAppendEntries nodes msg))
        (samplePeer.appendEntries boolCbor sampleCodecs (sampleExchange h h' nodes) msg)) ∧
      (∀ msg, Transparent (h.network.resolveInstallSnapshot h'.network nodes msg)
        (samplePeer.installSnapshot sampleCodecs (sampleExchange h h' nodes) msg)) ∧
      ∀ msg, Transparent (.ok (h.network.resolveVote nodes msg))
        (samplePeer.vote sampleCodecs (sampleExchange h h' nodes) msg) := by
  intro hall
  have hr : Host.Reachable (fun _ => "") Host.sampleJoined :=
    ⟨0, 1, Host.sampleInfo, Ring.new 10, _, Host.runs_sampleRun rfl⟩
  have htransparent := (hall _ _ _ [] (fun _ => sampleAnswers) hr (.nil _)).2.2 (sampleVote 3)
  exact htransparent.survives _ rfl

end RaftScaffold
