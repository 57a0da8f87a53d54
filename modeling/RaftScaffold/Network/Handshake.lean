import RaftScaffold.Network.NodeTable
import RaftScaffold.Http.Routes

set_option autoImplicit false

/-! # The connect handshake

A network `A` whose `Node` for a network `B` connects sends a `ConnectNode` with its own id and info through `B`'s
HTTP endpoint. `B` registers `A`, delegates the configuration change to the leader and answers; the route turns
the answer into a response, and `A` decodes it.

The two ends do not fit: `connect_node_route` acknowledges with an empty body, and `RemoteNode::connect` reads every
reply as a `RaftProtocolResponse`. So `A` sees every attempt fail (`RemoteNode.connect_eq_error`), and the ends agree
exactly when `B` refuses, which it does only as a leader that cannot reach its own node
(`connectAgrees_iff`). -/

namespace RaftScaffold

open Transition Transport

namespace Host

/-! ## The answer of the network -/

/-- A `Node` is sent a configuration change and its answer awaited; `lost` says for which addresses the
    mailbox fails. A node that panics never answers. -/
def askNode (self : Host) (lost : Addr → Option MailboxError) (addr : Addr)
    (command : ChangeClusterConfig) : Except NetworkError Unit :=
  match lost addr, self.actorAt addr with
  | some err, _ => .error (.actorMailBoxError err)
  | none, none => .error (.actorMailBoxError .closed)
  | none, some actor =>
      if actor.stopped then .error (.actorMailBoxError .closed)
      else
        match actor.changeClusterConfig command with
        | .error _ => .error (.actorMailBoxError .closed)
        | .ok (_, res) => res

/-- `Network::delegate_to_leader` with the leader's answer. -/
def askLeader (self : Host) (lost : Addr → Option MailboxError) (command : ChangeClusterConfig) :
    Except NetworkError Unit := do
  let leader ← self.network.leaderDelegate
  self.askNode lost leader command

/-- What the future of `Handler<ConnectNode>` resolves to when it is polled. -/
def connectNodeAnswer (self : Host) (lost : Addr → Option MailboxError) (command : ConnectNode) :
    Except NetworkError Acknowledged :=
  connectNodeReply (self.askLeader lost (ChangeClusterConfig.newToAdd [command.id]))

/-- The answer to a `ConnectNode` when the events `between` happen before the future is polled. A network
    that dies meanwhile closes its mailbox. -/
def answerConnectNode (self : Host) (sha256 : String → String) (between : List HostEvent)
    (lost : Addr → Option MailboxError) (command : ConnectNode) :
    Except MailboxError (Except NetworkError Acknowledged) :=
  match self.handleConnectNode command with
  | .error err => .ok (.error err)
  | .ok accepted =>
      match between.foldlM (Host.step sha256) accepted with
      | .error _ => .error .closed
      | .ok polled => .ok (polled.connectNodeAnswer lost command)

/-- The metrics name this network as leader, and its own node is not started or does not answer. -/
def OwnLeaderUnreachable (h : Host) (lost : Addr → Option MailboxError) : Prop :=
  ∃ lref, h.network.leaderRef = some lref ∧ lref.id = h.network.id ∧
    ∀ addr, lref.addr = some addr →
      (lost addr).isSome ∨ ∃ actor, h.actorAt addr = some actor ∧ actor.stopped = true

/-- A running local node answers a configuration change at once. -/
theorem askNode_local {h : Host} {addr : Addr} {actor : NodeActor} {localNode : LocalNode}
    (lost : Addr → Option MailboxError) (hactor : h.actorAt addr = some actor)
    (hprox : actor.node.proximity = .localNode localNode) (command : ChangeClusterConfig) :
    (∃ err, h.askNode lost addr command = .error (.actorMailBoxError err)) ∧
        ((lost addr).isSome ∨ actor.stopped = true) ∨
      h.askNode lost addr command = .ok () ∧ lost addr = none ∧ actor.stopped = false := by
  unfold askNode
  rw [hactor]
  cases hlost : lost addr with
  | some err => exact .inl ⟨⟨err, rfl⟩, .inl rfl⟩
  | none =>
      cases hstopped : actor.stopped with
      | true => exact .inl ⟨⟨.closed, by simp [hstopped]⟩, .inr rfl⟩
      | false =>
          refine .inr ⟨?_, rfl, rfl⟩
          simp only [hstopped, Bool.false_eq_true, if_false, NodeActor.changeClusterConfig, hprox]
          rfl

/-- **When a connect request is refused.** In a well-formed state the answer is an error if the own node is a
    leader that cannot be reached, and an acknowledgement otherwise. -/
theorem connectNodeAnswer_cases {h : Host} (hw : WellFormed h) (lost : Addr → Option MailboxError)
    (command : ConnectNode) :
    (h.OwnLeaderUnreachable lost ∧ ∃ err, h.connectNodeAnswer lost command = .error err) ∨
      (¬ h.OwnLeaderUnreachable lost ∧ h.connectNodeAnswer lost command = .ok {}) := by
  unfold connectNodeAnswer askLeader
  rcases hw.leaderDelegate_cases with ⟨hnone, hdelegate⟩ | ⟨lref, info, hleader, -, hcases⟩
  · refine .inr ⟨?_, by rw [hdelegate]; rfl⟩
    rintro ⟨lref, hsome, -⟩
    rw [hnone] at hsome
    cases hsome
  · have honly : ∀ lref', h.network.leaderRef = some lref' → lref' = lref := fun _ hsome =>
      (Option.some.inj (hleader.symm.trans hsome)).symm
    rcases hcases with ⟨hother, hdelegate⟩ | ⟨hown, haddr, hdelegate⟩ |
      ⟨hown, addr, actor, haddr, hactor, hserves, hdelegate⟩
    · refine .inr ⟨?_, by rw [hdelegate]; rfl⟩
      rintro ⟨lref', hsome, hown, -⟩
      rw [honly lref' hsome] at hown
      exact hother hown
    · refine .inl ⟨⟨lref, hleader, hown, fun addr hsome => ?_⟩, _, by rw [hdelegate]; rfl⟩
      rw [haddr] at hsome
      cases hsome
    · obtain ⟨raft, hprox⟩ := hserves.local
      rw [hdelegate]
      simp only [bind, Except.bind]
      rcases askNode_local lost hactor hprox (ChangeClusterConfig.newToAdd [command.id]) with
        ⟨⟨err, herr⟩, hdown⟩ | ⟨hok, hup, hruns⟩
      · refine .inl ⟨⟨lref, hleader, hown, fun addr' hsome => ?_⟩, _, by rw [herr]; rfl⟩
        obtain rfl := Option.some.inj (haddr.symm.trans hsome)
        exact hdown.imp_right fun hstopped => ⟨actor, hactor, hstopped⟩
      · refine .inr ⟨?_, by rw [hok]; rfl⟩
        rintro ⟨lref', hsome, -, hdown⟩
        rw [honly lref' hsome] at hdown
        rcases hdown addr haddr with hlost | ⟨actor', hactor', hstopped⟩
        · rw [hup] at hlost
          cases hlost
        · obtain rfl := Option.some.inj (hactor.symm.trans hactor')
          rw [hruns] at hstopped
          cases hstopped

section Polled

variable {sha256 : String → String} {h accepted polled : Host} {between : List HostEvent}
  {command : ConnectNode}

theorem answerConnectNode_eq (haccept : h.handleConnectNode command = .ok accepted)
    (hbetween : Runs (Step sha256) accepted between polled) (lost : Addr → Option MailboxError) :
    h.answerConnectNode sha256 between lost command = .ok (polled.connectNodeAnswer lost command) := by
  rw [runs_stepOf_iff] at hbetween
  simp only [answerConnectNode, haccept, hbetween]

theorem Reachable.runsBetween (hr : Reachable sha256 h) (haccept : h.handleConnectNode command = .ok accepted)
    (hbetween : Runs (Step sha256) accepted between polled) : Reachable sha256 polled := by
  have hmsg : Step sha256 h (.message (.connectNode command)) accepted := by
    simp [step, handle, haccept]
  exact hr.runs ((Runs.cons hmsg (.nil _)).append hbetween)

end Polled

end Host

/-! ## The two ends composed -/

section Handshake

variable {Body : Type} [HttpBody Body]

/-- The server of a network that answers `ConnectNode` messages as `network` says. -/
def connectServer (request : Codec Body Entities.NodeInfoMessage)
    (network : ConnectNode → Except MailboxError (Except NetworkError Acknowledged))
    (rest : HttpServer Body) : HttpServer Body :=
  serveAt
    (fun
      | .connectNode uid => some (connectNodeRoute request network uid)
      | _ => none)
    rest

theorem nodeIdFromPath_toString (id : NodeId) : nodeIdFromPath (toString id) = .ok id :=
  parseU64_toString id

/-- The path of a connect request names its peer. -/
theorem route_connectNode (remote : RemoteNode) :
    route .post (remote.scope.join ["nodes", toString remote.remoteId]).segments =
      some (.connectNode (toString remote.remoteId)) := by
  have huid : toString remote.remoteId ≠ "" := by
    intro hempty
    have hparse := nodeIdFromPath_toString remote.remoteId
    rw [hempty] at hparse
    cases hparse
  show (if "nodes" = "nodes" ∧ toString remote.remoteId ≠ "" then _ else _) = _
  rw [if_pos ⟨rfl, huid⟩]

/-- The body of the connect request of a client with id and info `idInfo`. -/
def connectMessage (idInfo : NodeId × NodeInfo) : Entities.NodeInfoMessage :=
  { nodeId := some (Entities.NodeId.ofRaft idInfo.1), nodeInfo := some (Entities.NodeInfo.ofInfo idInfo.2) }

/-- The route of a connect request passes the client's own id and info to the network, and answers with no
    JSON whatever the network says. A request that is too long never gets to the network. -/
theorem connectNodeRoute_eq {request : Codec Body Entities.NodeInfoMessage}
    (hreq : request.Lawful)
    (network : ConnectNode → Except MailboxError (Except NetworkError Acknowledged))
    (remoteId : NodeId) (localIdInfo : NodeId × NodeInfo) :
    ∃ resp, connectNodeRoute request network (toString remoteId)
        (request.encode (connectMessage localIdInfo)) = .ok resp ∧
      (resp.body = HttpBody.empty ∨ ∃ text, resp.body = HttpBody.text text ∧
        opensJson text = false) := by
  unfold connectNodeRoute
  by_cases hfits : Fits (request.encode (connectMessage localIdInfo))
  · rw [extractJson_of_decode hfits (hreq.roundTrip _)]
    simp only [connectMessage, nodeIdFromPath_toString, unwrap_some, bind, Except.bind, Except.toOption,
      expect_some]
    cases network _ with
    | error err => exact ⟨_, rfl, .inr ⟨_, rfl, err.display_not_json⟩⟩
    | ok answer =>
        cases answer with
        | error err => exact ⟨_, rfl, .inr ⟨_, rfl, err.display_not_json⟩⟩
        | ok ack => exact ⟨_, rfl, .inl rfl⟩
  · rw [extractJson_overflow request hfits]
    exact ⟨_, rfl, .inr ⟨_, rfl, jsonOverflow_not_json⟩⟩

/-- **No connect attempt succeeds.** Whatever the peer's network answers, the client cannot decode the
    reply. -/
theorem RemoteNode.connect_eq_error {request : Codec Body Entities.NodeInfoMessage}
    {response : Codec Body Entities.RaftProtocolResponse} (hreq : request.Lawful)
    (hresp : response.Lawful) (remote : RemoteNode)
    (network : ConnectNode → Except MailboxError (Except NetworkError Acknowledged))
    (rest : HttpServer Body) (dropped : Panic → ClientError) (localIdInfo : NodeId × NodeInfo) :
    ∃ err, remote.connect request response (transport dropped (connectServer request network rest))
      localIdInfo = .error err := by
  obtain ⟨resp, hroute, hbody⟩ :=
    connectNodeRoute_eq hreq network remote.remoteId localIdInfo
  have hdecode : ∃ err, response.decode resp.body = .error err := by
    rcases hbody with hempty | ⟨text, htext, hjson⟩
    · obtain ⟨err, herr, -⟩ := hresp.empty
      exact ⟨err, by rw [hempty, herr]⟩
    · obtain ⟨err, herr, -⟩ := hresp.text text hjson
      exact ⟨err, by rw [htext, herr]⟩
  obtain ⟨err, herr⟩ := hdecode
  refine ⟨remote.convertError err, ?_⟩
  rw [connectMessage] at hroute
  simp only [RemoteNode.connect, transport, connectServer, serveAt, route_connectNode, Option.bind_some, hroute,
    herr]

/-- What a handshake of a client with id and info `idInfo` promises: if the network of the peer answers `Ok`
    then its table, as it stands once the request is accepted, holds the client's id with exactly this info
    and the client is acknowledged; if it answers with an error, so does the client's `connect`. -/
structure ConnectAgrees (accepted : Host) (answer : Except MailboxError (Except NetworkError Acknowledged))
    (outcome : Except NodeError Acknowledged) (idInfo : NodeId × NodeInfo) : Prop where
  acknowledged : ∀ ack, answer = .ok (.ok ack) →
    accepted.network.nodes[idInfo.1]?.bind NodeRef.info = some idInfo.2 ∧ outcome = .ok {}
  refused : ∀ err, answer = .ok (.error err) → ∃ err, outcome = .error err

/-- The handshake of a client with id and info `idInfo`, whose node for the peer is `remote`, with a peer in
    state `b`: the client's `connect` talks to the peer's server, whose network answers. It answers nothing if
    the extractor refuses the request. -/
def HandshakeAgrees (request : Codec Body Entities.NodeInfoMessage)
    (response : Codec Body Entities.RaftProtocolResponse) (sha256 : String → String)
    (b accepted : Host) (between : List HostEvent) (lost : Addr → Option MailboxError)
    (rest : HttpServer Body) (dropped : Panic → ClientError) (remote : RemoteNode)
    (idInfo : NodeId × NodeInfo) : Prop :=
  let answer := b.answerConnectNode sha256 between lost
  Fits (request.encode (connectMessage idInfo)) →
    ConnectAgrees accepted (answer { id := idInfo.1, info := idInfo.2 })
      (remote.connect request response (transport dropped (connectServer request answer rest)) idInfo)
      idInfo

/-- **When the two ends of a handshake agree.** For every reachable state `b` of the peer's network and
    whatever it handles between accepting the request and answering it, the ends agree if and only if the
    metrics then name the peer's network as leader while its own node is not started or does not answer, or the
    request is too long for the peer's extractor. -/
theorem connectAgrees_iff (request : Codec Body Entities.NodeInfoMessage)
    (response : Codec Body Entities.RaftProtocolResponse) (hreq : request.Lawful)
    (hresp : response.Lawful) (sha256 : String → String) (b accepted polled : Host)
    (between : List HostEvent) (lost : Addr → Option MailboxError) (rest : HttpServer Body)
    (dropped : Panic → ClientError) (remote : RemoteNode) (idInfo : NodeId × NodeInfo)
    (hb : Host.Reachable sha256 b)
    (haccept : b.handleConnectNode { id := idInfo.1, info := idInfo.2 } = .ok accepted)
    (hbetween : Runs (Host.Step sha256) accepted between polled) :
    HandshakeAgrees request response sha256 b accepted between lost rest dropped remote idInfo ↔
      polled.OwnLeaderUnreachable lost ∨ ¬ Fits (request.encode (connectMessage idInfo)) := by
  have hanswer := Host.answerConnectNode_eq haccept hbetween lost
  have hreach := hb.runsBetween haccept hbetween
  obtain ⟨err, hfail⟩ := RemoteNode.connect_eq_error hreq hresp remote
    (b.answerConnectNode sha256 between lost) rest dropped idInfo
  rw [or_comm, ← imp_iff_not_or]
  refine imp_congr_right fun _ => ?_
  rw [hfail, hanswer]
  -- the client fails in any case, so all depends on whether the peer refuses
  rcases Host.connectNodeAnswer_cases hreach.wellFormed lost
      { id := idInfo.1, info := idInfo.2 } with ⟨hdown, err', herr'⟩ | ⟨hup, hok⟩
  · rw [herr']
    exact iff_of_true ⟨fun ack hack => (by cases hack), fun _ _ => ⟨err, rfl⟩⟩ hdown
  · rw [hok]
    refine iff_of_false (fun hagree => ?_) hup
    cases (hagree.acknowledged {} rfl).2

end Handshake

/-! ## Sample handshakes -/

abbrev HandshakeBody : Type := SimpleBody (Entities.NodeInfoMessage ⊕ Entities.RaftProtocolResponse)

def requestCodec : Codec HandshakeBody Entities.NodeInfoMessage :=
  SimpleBody.codec .inl Sum.getLeft? fun _ => 160

def responseCodec : Codec HandshakeBody Entities.RaftProtocolResponse :=
  SimpleBody.codec .inr Sum.getRight? fun _ => 40

def leaderMetrics : RaftMetrics := { nonVoterMetrics with state := .leader, currentLeader := some 1 }

/-- A leader that waits for its Raft actor refuses, and both ends know. -/
theorem connectAgrees_refused :
    let b := Host.sampleRun [.started, .message (.raftMetrics 1 leaderMetrics)]
    ∀ accepted, b.handleConnectNode { id := 2, info := Host.sampleInfo } = .ok accepted →
      HandshakeAgrees requestCodec responseCodec (fun _ => "") b accepted [] (fun _ => none)
        (fun _ => .ok notFound) (fun p => ⟨.other, p.message⟩)
        { remoteId := 1, remoteInfo := Host.sampleInfo } (2, Host.sampleInfo) := by
  intro b accepted haccept
  have hb : Host.Reachable (fun _ => "") b :=
    ⟨0, 1, Host.sampleInfo, Ring.new 10, _, Host.runs_sampleRun rfl⟩
  refine (connectAgrees_iff requestCodec responseCodec (SimpleBody.codec_lawful _ _ _ fun _ => rfl)
    (SimpleBody.codec_lawful _ _ _ fun _ => rfl) (fun _ => "") b accepted accepted [] _ _ _ _
    (2, Host.sampleInfo) hb haccept (.nil _)).2 (.inl ?_)
  obtain rfl := Except.ok.inj haccept
  exact ⟨{ id := 1, info := some Host.sampleInfo, addr := none }, by decide, rfl,
    fun addr haddr => by cases haddr⟩

/-- A started network with no leader acknowledges node 2, whose `connect` returns an error. -/
theorem connectAgrees_fails :
    ¬ ∀ sha256 b accepted polled between lost rest dropped remote idInfo, Host.Reachable sha256 b →
      b.handleConnectNode { id := idInfo.1, info := idInfo.2 } = .ok accepted →
      Runs (Host.Step sha256) accepted between polled →
      HandshakeAgrees requestCodec responseCodec sha256 b accepted between lost rest dropped remote
        idInfo := by
  intro hall
  have hb : Host.Reachable (fun _ => "") (Host.sampleRun [.started]) :=
    ⟨0, 1, Host.sampleInfo, Ring.new 10, _, Host.runs_sampleRun rfl⟩
  have hagrees := hall (fun _ => "") _ _ _ [] (fun _ => none) (fun _ => .ok notFound)
    (fun p => ⟨.other, p.message⟩) { remoteId := 1, remoteInfo := Host.sampleInfo }
    (2, Host.sampleInfo) hb rfl (.nil _) (by decide)
  cases (hagrees.acknowledged {} rfl).2

end RaftScaffold
