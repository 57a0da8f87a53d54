import RaftScaffold.Raft.Remote
import RaftScaffold.Transport.Forwarding

set_option autoImplicit false

/-! # From one Raft actor to another

The whole way of a Raft RPC: the sender's `Network` forwards it to the `Node` of its target (`raft/network.rs`),
whose proximity submits it to the Raft actor of the process or sends it to the address the target is known under
(`raft/network/node/local.rs`, `raft/network/node/remote.rs`), where a route hands it to the next `Network`. The
address may be out of date, so an RPC may pass several processes, and while it travels each process handles other
messages.

Only the target's own Raft actor ever gets the RPC (`deliveredToTarget`). The sender gets `Ok(r)` exactly if it
does get it, within the number of processes that the sender waits for, and answers the very message that was sent
with `r`; and if the RPC leaves the sender's process, it must be short enough for the extractors on its way
(`raftRpcs_endToEnd`). -/

namespace RaftScaffold

open Transition Transport

/-! ## A process handles an RPC -/

/-- The actors of a reachable network keep serving what they serve. -/
theorem Host.keeps_of_runs {sha256 : String → String} {h h' : Host} {es : List HostEvent}
    (hr : Host.Reachable sha256 h) (hrun : Runs (Host.Step sha256) h es h') : Host.Keeps h h' := by
  induction hrun with
  | nil h => exact .refl h
  | cons hstep _ ih =>
      exact ((Host.step_cases hstep).keeps hr.wellFormed).trans (ih (hr.runs (.cons hstep (.nil _))))

/-- The states of a process while it handles one RPC: its network accepts the message, the network's future is
    polled, and the `Node` that the future sends the message to handles it. -/
structure Visit where
  accepted : Host
  polled : Host
  handled : Host

namespace Visit

/-- A process that was in the state `h` meets the RPC later, and between the three states it does whatever it
    can do. -/
structure Proper (sha256 : String → String) (h : Host) (v : Visit) : Prop where
  accepted : ∃ es, Runs (Host.Step sha256) h es v.accepted
  polled : ∃ es, Runs (Host.Step sha256) v.accepted es v.polled
  handled : ∃ es, Runs (Host.Step sha256) v.polled es v.handled

/-- The node that the RPC is forwarded to. -/
def forwardsTo (self : Visit) (target sender : NodeId) : Option Addr :=
  match self.accepted.network.ignoreInIsolation target sender with
  | .ok _ => self.polled.network.getNode target
  | .error _ => none

theorem forwardsTo_eq_some {v : Visit} {target sender : NodeId} {addr : Addr} :
    v.forwardsTo target sender = some addr ↔
      v.accepted.network.Passes target sender ∧ v.polled.network.getNode target = some addr := by
  unfold forwardsTo
  cases hignore : v.accepted.network.ignoreInIsolation target sender with
  | ok u => simp [Network.ignoreInIsolation_eq_ok.1 hignore]
  | error u =>
      have hstop : ¬ v.accepted.network.Passes target sender := by
        intro hpass
        rw [Network.ignoreInIsolation_eq_ok.2 hpass] at hignore
        cases hignore
      simp [hstop]

/-- `AppendEntries` and `Vote` are forwarded when they are accepted. -/
def atOnce (self : Visit) : Visit := { self with polled := self.accepted }

theorem atOnce_forwardsTo_eq_some {v : Visit} {target sender : NodeId} {addr : Addr} :
    v.atOnce.forwardsTo target sender = some addr ↔ v.accepted.network.gate target sender = .ok addr := by
  rw [forwardsTo_eq_some, Network.gate_eq_ok]
  constructor
  · rintro ⟨⟨-, htarget, hsender⟩, haddr⟩
    exact ⟨haddr, htarget, hsender⟩
  · rintro ⟨haddr, htarget, hsender⟩
    have hmem := Network.mem_nodes_of_getNode (Option.isSome_iff_exists.2 ⟨addr, haddr⟩)
    exact ⟨⟨hmem, htarget, hsender⟩, haddr⟩

theorem Proper.atOnce {sha256 : String → String} {h : Host} {v : Visit} (hv : v.Proper sha256 h) :
    v.atOnce.Proper sha256 h := by
  obtain ⟨haccepted, ⟨es, hpolled⟩, es', hhandled⟩ := hv
  exact ⟨haccepted, ⟨[], .nil _⟩, es ++ es', hpolled.append hhandled⟩

/-- The RPC passes the gate, and the node that it is sent to still runs. -/
def Takes (self : Visit) (target sender : NodeId) : Prop :=
  self.accepted.network.Passes target sender ∧
    ∃ addr actor, self.polled.network.getNode target = some addr ∧
      self.handled.actorAt addr = some actor ∧ actor.stopped = false

/-- The node that the RPC is sent to serves the target, under the info that the network has for it. -/
theorem Proper.serves {sha256 : String → String} {h : Host} {v : Visit} (hr : Host.Reachable sha256 h)
    (hv : v.Proper sha256 h) {target : NodeId} {addr : Addr}
    (haddr : v.polled.network.getNode target = some addr) :
    ∃ actor info, v.handled.actorAt addr = some actor ∧
      v.polled.network.nodes[target]?.bind NodeRef.info = some info ∧
      Host.Serves h.network.id target info actor := by
  obtain ⟨⟨es, haccepted⟩, ⟨es', hpolled⟩, es'', hhandled⟩ := hv
  have hpolledRun := haccepted.append hpolled
  have hrpolled := hr.runs hpolledRun
  obtain ⟨nodeRef, hlookup, hsome⟩ := Option.bind_eq_some_iff.1 haddr
  obtain ⟨info, hinfo, hserved⟩ := (hrpolled.wellFormed.entries target nodeRef hlookup).served
  obtain ⟨actor, hactor, hserves⟩ := hserved addr hsome
  obtain ⟨actor', hactor', -, hkeep⟩ := (Host.keeps_of_runs hrpolled hhandled).actors addr actor hactor
  refine ⟨actor', info, hactor', by rw [hlookup]; exact hinfo, ?_⟩
  rw [← (Host.keeps_of_runs hr hpolledRun).id]
  exact hkeep target info hserves

end Visit

/-! ## A node handles an RPC -/

section Nodes

variable {D : Type}

/-- `LocalNode::submit_to_raft`, with the futures that flatten its result. -/
def LocalNode.submitToRaft {R : Type} (_self : LocalNode) :
    Except MailboxError (Except Unit R) → Except Unit R
  | .error _ => .error ()
  | .ok res => res

theorem LocalNode.submitToRaft_eq_ok {R : Type} {self : LocalNode}
    {answer : Except MailboxError (Except Unit R)} {r : R} :
    self.submitToRaft answer = .ok r ↔ answer = .ok (.ok r) := by
  cases answer <;> simp [submitToRaft]

/-- Nobody answers. -/
def RaftAnswers.unanswered (err : MailboxError) : RaftAnswers D where
  appendEntries _ := .error err
  installSnapshot _ := .error err
  vote _ := .error err

/-- The RPC handlers of a `Node` (`raft/network/node.rs`): the proximity answers. A proximity that panics takes the
    actor with it. -/
def NodeActor.raftAnswers {Body : Type} (self : NodeActor) (cbor : Cbor D) (codecs : RaftCodecs Body)
    (raft : RaftAddr → RaftAnswers D) (send : Request Body → Except ClientError (Response Body)) :
    RaftAnswers D :=
  if self.stopped then .unanswered .closed
  else
    match self.node.proximity with
    | .localNode node =>
        { appendEntries := fun msg => .ok (node.submitToRaft ((raft node.raft).appendEntries msg))
          installSnapshot := fun msg => .ok (node.submitToRaft ((raft node.raft).installSnapshot msg))
          vote := fun msg => .ok (node.submitToRaft ((raft node.raft).vote msg)) }
    | .remoteNode node =>
        { appendEntries := fun msg => mailboxAnswer (node.appendEntries cbor codecs send msg)
          installSnapshot := fun msg => mailboxAnswer (node.installSnapshot codecs send msg)
          vote := fun msg => mailboxAnswer (node.vote codecs send msg) }

end Nodes

/-! ## One process asks another -/

/-- **A sender gets `Ok(r)` exactly if the peer reads the request and its network answers with `Ok(r)`.** -/
theorem RemoteNode.sendRaftCommand_eq_ok {Body M R M0 R0 : Type} [HttpBody Body]
    {intoEntity : M → Except Panic M0} {ofEntity : M0 → Except Panic M} {replyInto : R → R0}
    {replyOf : R0 → R} {request : Codec Body M0} {response : Codec Body R0} (hreq : request.Lawful)
    (hresp : response.Lawful) (hconv : RoundTrips intoEntity ofEntity)
    (hreply : ∀ r, replyOf (replyInto r) = r) (remote : RemoteNode)
    {network : M → Except MailboxError (Except Unit R)}
    {send : Request Body → Except ClientError (Response Body)} {path : String}
    (hsend : ∀ body resp, raftRoute ofEntity replyInto request response network body = .ok resp →
      send { method := .post, url := remote.scope.join [path], body } = .ok resp)
    {command : M} {r : R} :
    remote.sendRaftCommand intoEntity replyOf request response send command path = .ok (.ok r) ↔
      RequestFits intoEntity request command ∧ network command = .ok (.ok r) := by
  rcases remote.sendRaftCommand_cases hreq hresp hconv hreply hsend command with
    ⟨r', hfits, hanswer, hsent⟩ | ⟨hnone, panic, hpanic⟩
  · rw [hsent, hanswer, and_iff_right hfits]
    simp
  · rw [hpanic]
    exact iff_of_false nofun fun h => hnone r h.1 h.2

/-- A request that is refused brings no answer. -/
theorem RemoteNode.sendRaftCommand_refused {Body M R M0 R0 : Type} {intoEntity : M → Except Panic M0}
    {replyOf : R0 → R} {request : Codec Body M0} {response : Codec Body R0} (remote : RemoteNode)
    {send : Request Body → Except ClientError (Response Body)} {path : String} {command : M}
    (hsend : ∀ body, ∃ err, send { method := .post, url := remote.scope.join [path], body } = .error err)
    (r : R) :
    remote.sendRaftCommand intoEntity replyOf request response send command path ≠ .ok (.ok r) := by
  intro hsent
  obtain ⟨entity, -, hsent⟩ := bind_eq_ok.1 hsent
  obtain ⟨err, herr⟩ := hsend (request.encode entity)
  rw [herr] at hsent
  obtain ⟨-, -, hsent⟩ := bind_eq_ok.1 hsent
  cases hsent

section Dispatch

variable {κ D Body : Type} [HttpBody Body]

/-- An HTTP request goes to the process that listens at its address, whose network answers RPCs as `next` says. -/
def dispatch (cbor : Cbor D) (codecs : RaftCodecs Body) (rest : HttpServer Body)
    (dropped : Panic → ClientError) (refused : ClientError) (listener : String → Option κ)
    (next : κ → RaftAnswers D) : Request Body → Except ClientError (Response Body) := fun req =>
  match listener req.url.authority with
  | none => .error refused
  | some j => transport dropped (raftServer cbor codecs (next j) rest) req

variable {cbor : Cbor D} {codecs : RaftCodecs Body} {rest : HttpServer Body}
  {dropped : Panic → ClientError} {refused : ClientError} {listener : String → Option κ}
  {next : κ → RaftAnswers D}

/-- An RPC to another process is answered by the network of the process that listens at its address. -/
theorem RemoteNode.sendRaftCommand_dispatch {M R M0 R0 : Type}
    {intoEntity : M → Except Panic M0} {ofEntity : M0 → Except Panic M} {replyInto : R → R0}
    {replyOf : R0 → R} {request : Codec Body M0} {response : Codec Body R0} (hreq : request.Lawful)
    (hresp : response.Lawful) (hconv : RoundTrips intoEntity ofEntity)
    (hreply : ∀ r, replyOf (replyInto r) = r) (remote : RemoteNode) {path : String}
    (ask : RaftAnswers D → M → Except MailboxError (Except Unit R))
    (hserver : ∀ (answers : RaftAnswers D) body,
      raftServer cbor codecs answers rest
          { method := .post, url := remote.scope.join [path], body := body } =
        raftRoute ofEntity replyInto request response (ask answers) body)
    (command : M) (r : R) :
    remote.sendRaftCommand intoEntity replyOf request response
        (dispatch cbor codecs rest dropped refused listener next) command path = .ok (.ok r) ↔
      RequestFits intoEntity request command ∧
        ∃ j, listener remote.remoteInfo.clusterAddress = some j ∧ ask (next j) command = .ok (.ok r) := by
  cases hlistener : listener remote.remoteInfo.clusterAddress with
  | none =>
      refine iff_of_false (remote.sendRaftCommand_refused (fun body => ⟨refused, ?_⟩) r) (by simp)
      show (match listener remote.remoteInfo.clusterAddress with | none => _ | some j => _) = _
      rw [hlistener]
  | some j =>
      have hsend : ∀ body resp,
          raftRoute ofEntity replyInto request response (ask (next j)) body = .ok resp →
            dispatch cbor codecs rest dropped refused listener next
              { method := .post, url := remote.scope.join [path], body } = .ok resp := by
        intro body resp hroute
        show (match listener remote.remoteInfo.clusterAddress with | none => _ | some j => _) = _
        rw [hlistener]
        simp only [transport, hserver, hroute]
      simp [RemoteNode.sendRaftCommand_eq_ok hreq hresp hconv hreply remote hsend]

/-- One of the three RPCs: `ask` reads the answer to a message off, and `Fitting` says that an extractor reads
    the message. -/
structure Relayed (cbor : Cbor D) (codecs : RaftCodecs Body) {R : Type} (Fitting : Prop)
    (ask : RaftAnswers D → Except MailboxError (Except Unit R)) : Prop where
  unanswered : ∀ err r, ask (.unanswered err) ≠ .ok (.ok r)
  /-- A running node relays what the Raft actor answers, or the process at the address of the target. -/
  actor : ∀ {κ : Type} (actor : NodeActor) (raft : RaftAddr → RaftAnswers D) (rest : HttpServer Body)
    (dropped : Panic → ClientError) (refused : ClientError) (listener : String → Option κ)
    (next : κ → RaftAnswers D) (r : R),
    ask (actor.raftAnswers cbor codecs raft
        (dispatch cbor codecs rest dropped refused listener next)) = .ok (.ok r) ↔
      actor.stopped = false ∧
        match actor.node.proximity with
        | .localNode node => ask (raft node.raft) = .ok (.ok r)
        | .remoteNode node =>
            Fitting ∧ ∃ j, listener node.remoteInfo.clusterAddress = some j ∧ ask (next j) = .ok (.ok r)

theorem roundTrips_installSnapshot :
    RoundTrips (fun rpc => (.ok (Entities.RaftInstallSnapshotRequest.ofRaft rpc) : Except Panic _))
      fun entity => .ok entity.toRaft := fun _ => ⟨_, rfl, rfl⟩

theorem roundTrips_vote :
    RoundTrips (fun rpc => (.ok (Entities.RaftVoteRequest.ofRaft rpc) : Except Panic _))
      fun entity => .ok entity.toRaft := fun _ => ⟨_, rfl, rfl⟩

theorem relayed_appendEntries (hcbor : cbor.Lawful) (hcodecs : codecs.Lawful)
    (msg : AppendEntriesRequest D) :
    Relayed cbor codecs (msg.Fitting codecs cbor) fun answers => answers.appendEntries msg where
  unanswered err r := by simp [RaftAnswers.unanswered]
  actor actor raft rest dropped refused listener next r := by
    unfold NodeActor.raftAnswers
    cases actor.stopped with
    | true => simp [RaftAnswers.unanswered]
    | false =>
        cases actor.node.proximity with
        | localNode node => simp [LocalNode.submitToRaft_eq_ok]
        | remoteNode node =>
            simp only [Bool.false_eq_true, if_false, true_and, mailboxAnswer_eq_ok]
            exact RemoteNode.sendRaftCommand_dispatch hcodecs.appendEntriesRequest
              hcodecs.appendEntriesResponse (Entities.RaftAppendEntriesRequest.roundTrips hcbor)
              Entities.RaftAppendEntriesResponse.toRaft_ofRaft node RaftAnswers.appendEntries
              (fun _ _ => rfl) msg r

theorem relayed_installSnapshot (hcodecs : codecs.Lawful) (msg : InstallSnapshotRequest) :
    Relayed (D := D) cbor codecs (msg.Fitting codecs) fun answers => answers.installSnapshot msg where
  unanswered err r := by simp [RaftAnswers.unanswered]
  actor actor raft rest dropped refused listener next r := by
    unfold NodeActor.raftAnswers
    cases actor.stopped with
    | true => simp [RaftAnswers.unanswered]
    | false =>
        cases actor.node.proximity with
        | localNode node => simp [LocalNode.submitToRaft_eq_ok]
        | remoteNode node =>
            simp only [Bool.false_eq_true, if_false, true_and, mailboxAnswer_eq_ok]
            refine (RemoteNode.sendRaftCommand_dispatch hcodecs.installSnapshotRequest
              hcodecs.installSnapshotResponse roundTrips_installSnapshot
              Entities.RaftInstallSnapshotResponse.toRaft_ofRaft node RaftAnswers.installSnapshot
              (fun _ _ => rfl) msg r).trans ?_
            exact and_congr_left' (requestFits_iff rfl)

theorem relayed_vote (hcodecs : codecs.Lawful) (msg : VoteRequest) :
    Relayed (D := D) cbor codecs (msg.Fitting codecs) fun answers => answers.vote msg where
  unanswered err r := by simp [RaftAnswers.unanswered]
  actor actor raft rest dropped refused listener next r := by
    unfold NodeActor.raftAnswers
    cases actor.stopped with
    | true => simp [RaftAnswers.unanswered]
    | false =>
        cases actor.node.proximity with
        | localNode node => simp [LocalNode.submitToRaft_eq_ok]
        | remoteNode node =>
            simp only [Bool.false_eq_true, if_false, true_and, mailboxAnswer_eq_ok]
            refine (RemoteNode.sendRaftCommand_dispatch hcodecs.voteRequest hcodecs.voteResponse
              roundTrips_vote Entities.RaftVoteResponse.toRaft_ofRaft node RaftAnswers.vote
              (fun _ _ => rfl) msg r).trans ?_
            exact and_congr_left' (requestFits_iff rfl)

end Dispatch

/-! ## Many processes -/

/-- The processes `ι` of a cluster while one RPC travels. The `n`-th process that it visits is in the states
    `visit n`, finds `listener n` at each address, and its Raft actors answer as `raft n` says. -/
structure World (ι D : Type) where
  visit : ℕ → ι → Visit
  listener : ℕ → String → Option ι
  raft : ℕ → ι → RaftAddr → RaftAnswers D

namespace World

variable {ι D Body : Type}

/-- The world for the RPCs that are forwarded when they are accepted. -/
def atOnce (self : World ι D) : World ι D :=
  { self with visit := fun n i => (self.visit n i).atOnce }

/-- What the node at `addr` does with an RPC in the `n`-th process. -/
def nodeHop (self : World ι D) (n : ℕ) (i : ι) (addr : Addr) : Hop (ℕ × ι) ((ℕ × ι) × RaftAddr) :=
  match (self.visit n i).handled.actorAt addr with
  | none => .reject
  | some actor =>
      if actor.stopped then .reject
      else
        match actor.node.proximity with
        | .localNode node => .deliver ((n, i), node.raft)
        | .remoteNode node =>
            match self.listener n node.remoteInfo.clusterAddress with
            | none => .reject
            | some j => .pass (n + 1, j)

/-- What a process does with an RPC for `target` from `sender`. -/
def hop (self : World ι D) (target sender : NodeId) (place : ℕ × ι) :
    Hop (ℕ × ι) ((ℕ × ι) × RaftAddr) :=
  match (self.visit place.1 place.2).forwardsTo target sender with
  | none => .reject
  | some addr => self.nodeHop place.1 place.2 addr

section Answers

variable [HttpBody Body]

/-- How the network of a process answers the sender of an RPC that at most `fuel` processes may visit. -/
def answers (self : World ι D) (cbor : Cbor D) (codecs : RaftCodecs Body) (rest : HttpServer Body)
    (dropped : Panic → ClientError) (refused : ClientError) : ℕ → ℕ × ι → RaftAnswers D
  | 0, _ => .unanswered .timeout
  | fuel + 1, (n, i) =>
      let v := self.visit n i
      let send := dispatch cbor codecs rest dropped refused (self.listener n) fun j =>
        self.answers cbor codecs rest dropped refused fuel (n + 1, j)
      v.accepted.network.raftAnswers v.polled.network fun addr =>
        match v.handled.actorAt addr with
        | none => .unanswered .closed
        | some actor => actor.raftAnswers cbor codecs (self.raft n i) send

variable {cbor : Cbor D} {codecs : RaftCodecs Body} {rest : HttpServer Body}
  {dropped : Panic → ClientError} {refused : ClientError}

/-- What a node answers, it has from where the RPC goes next. -/
theorem nodeHop_answers {R : Type} {Fitting : Prop}
    {ask : RaftAnswers D → Except MailboxError (Except Unit R)} (hask : Relayed cbor codecs Fitting ask)
    (w : World ι D) (n : ℕ) (i : ι) (addr : Addr) (next : ℕ × ι → RaftAnswers D) (r : R) :
    ask (match (w.visit n i).handled.actorAt addr with
        | none => .unanswered .closed
        | some actor => actor.raftAnswers cbor codecs (w.raft n i)
            (dispatch cbor codecs rest dropped refused (w.listener n) fun j => next (n + 1, j))) =
          .ok (.ok r) ↔
      (w.nodeHop n i addr).Meets (fun d => ask (w.raft d.1.1 d.1.2 d.2) = .ok (.ok r))
        fun place => Fitting ∧ ask (next place) = .ok (.ok r) := by
  unfold nodeHop
  cases hactor : (w.visit n i).handled.actorAt addr with
  | none => exact iff_of_false (hask.unanswered _ _) not_false
  | some actor =>
      simp only
      rw [hask.actor]
      cases actor.stopped with
      | true => simp
      | false =>
          cases actor.node.proximity with
          | localNode node => simp
          | remoteNode node =>
              cases hlistener : w.listener n node.remoteInfo.clusterAddress with
              | none => simp [hlistener]
              | some j => simp [hlistener]

/-- **What one process adds.** -/
theorem answers_succ {R : Type} {Fitting : Prop}
    {ask : RaftAnswers D → Except MailboxError (Except Unit R)} (hask : Relayed cbor codecs Fitting ask)
    (w w' : World ι D) (target sender : NodeId) (r : R)
    (hw' : ∀ n i addr, w'.nodeHop n i addr = w.nodeHop n i addr)
    (hnetwork : ∀ n i nodes,
      ask ((w.visit n i).accepted.network.raftAnswers (w.visit n i).polled.network nodes) = .ok (.ok r) ↔
        ∃ addr, (w'.visit n i).forwardsTo target sender = some addr ∧ ask (nodes addr) = .ok (.ok r))
    (fuel : ℕ) (place : ℕ × ι) :
    ask (w.answers cbor codecs rest dropped refused (fuel + 1) place) = .ok (.ok r) ↔
      (w'.hop target sender place).Meets (fun d => ask (w.raft d.1.1 d.1.2 d.2) = .ok (.ok r))
        fun place => Fitting ∧ ask (w.answers cbor codecs rest dropped refused fuel place) = .ok (.ok r) := by
  obtain ⟨n, i⟩ := place
  simp only [answers, hnetwork, hop]
  cases hroute : (w'.visit n i).forwardsTo target sender with
  | none => simp
  | some addr =>
      simp only [Option.some.injEq, exists_eq_left', hw']
      exact nodeHop_answers hask w n i addr _ r
end Answers

/-! ## Where an RPC goes -/

variable {sha256 : String → String} {hosts : ι → Host} {w : World ι D} {target sender : NodeId}

/-- The processes go through states of their own, and each is met at any time of its run. -/
structure Proper (sha256 : String → String) (hosts : ι → Host) (w : World ι D) : Prop where
  reachable : ∀ i, Host.Reachable sha256 (hosts i)
  visits : ∀ n i, (w.visit n i).Proper sha256 (hosts i)

theorem Proper.atOnce (hw : w.Proper sha256 hosts) : w.atOnce.Proper sha256 hosts :=
  ⟨hw.reachable, fun n i => (hw.visits n i).atOnce⟩

/-- **What a process can do with an RPC**: reject it, hand it to its own Raft actor if it is the target, or else
    pass it to whoever listens at the address that it knows for the target. -/
theorem Proper.hop_cases (hw : w.Proper sha256 hosts) (target sender : NodeId) (n : ℕ) (i : ι) :
    (¬ (w.visit n i).Takes target sender ∧ w.hop target sender (n, i) = .reject) ∨
      (w.visit n i).Takes target sender ∧
        ((target = (hosts i).network.id ∧ ∃ raft, w.hop target sender (n, i) = .deliver ((n, i), raft)) ∨
          (target ≠ (hosts i).network.id ∧ ∃ info,
            (w.visit n i).polled.network.nodes[target]?.bind NodeRef.info = some info ∧
            w.hop target sender (n, i) =
              match w.listener n info.clusterAddress with
              | none => .reject
              | some j => .pass (n + 1, j))) := by
  cases hroute : (w.visit n i).forwardsTo target sender with
  | none =>
      refine .inl ⟨?_, by simp only [hop, hroute]⟩
      rintro ⟨hpass, addr, -, haddr, -⟩
      rw [Visit.forwardsTo_eq_some.2 ⟨hpass, haddr⟩] at hroute
      cases hroute
  | some addr =>
      obtain ⟨hpass, haddr⟩ := Visit.forwardsTo_eq_some.1 hroute
      obtain ⟨actor, info, hactor, hinfo, hserves⟩ := (hw.visits n i).serves (hw.reachable i) haddr
      cases hstopped : actor.stopped with
      | true =>
          refine .inl ⟨?_, by simp only [hop, hroute, nodeHop, hactor, hstopped, if_true]⟩
          rintro ⟨-, addr', actor', haddr', hactor', hrunning⟩
          obtain rfl := Option.some.inj (haddr.symm.trans haddr')
          obtain rfl := Option.some.inj (hactor.symm.trans hactor')
          rw [hstopped] at hrunning
          cases hrunning
      | false =>
          refine .inr ⟨⟨hpass, addr, actor, haddr, hactor, hstopped⟩, ?_⟩
          have hhop : w.hop target sender (n, i) =
              match actor.node.proximity with
              | .localNode node => .deliver ((n, i), node.raft)
              | .remoteNode node =>
                  match w.listener n node.remoteInfo.clusterAddress with
                  | none => .reject
                  | some j => .pass (n + 1, j) := by
            simp only [hop, hroute, nodeHop, hactor, hstopped, Bool.false_eq_true, if_false]
          by_cases hown : target = (hosts i).network.id
          · rw [← hown] at hserves
            obtain ⟨raft, hlocal⟩ := hserves.local
            exact .inl ⟨hown, raft, by rw [hhop, hlocal]⟩
          · exact .inr ⟨hown, info, hinfo, by rw [hhop, hserves.remote hown]⟩

theorem Proper.hop_deliver (hw : w.Proper sha256 hosts) {n : ℕ} {i : ι} {d : (ℕ × ι) × RaftAddr}
    (hhop : w.hop target sender (n, i) = .deliver d) :
    (w.visit n i).Takes target sender ∧ target = (hosts i).network.id ∧ d.1 = (n, i) := by
  rcases hw.hop_cases target sender n i with ⟨-, hreject⟩ | ⟨htakes, ⟨hown, raft, hdel⟩ | ⟨-, info, -, hnext⟩⟩
  · rw [hreject] at hhop
    cases hhop
  · rw [hdel] at hhop
    cases hhop
    exact ⟨htakes, hown, rfl⟩
  · rw [hnext] at hhop
    split at hhop <;> cases hhop

theorem Proper.hop_pass (hw : w.Proper sha256 hosts) {n : ℕ} {i : ι} {place : ℕ × ι}
    (hhop : w.hop target sender (n, i) = .pass place) :
    (w.visit n i).Takes target sender ∧ target ≠ (hosts i).network.id ∧ place.1 = n + 1 := by
  rcases hw.hop_cases target sender n i with ⟨-, hreject⟩ | ⟨htakes, ⟨-, raft, hdel⟩ | ⟨hown, info, -, hnext⟩⟩
  · rw [hreject] at hhop
    cases hhop
  · rw [hdel] at hhop
    cases hhop
  · rw [hnext] at hhop
    split at hhop
    · cases hhop
    · cases hhop
      exact ⟨htakes, hown, rfl⟩

/-- The process that delivers an RPC is its target. -/
theorem Proper.target_of_delivers (hw : w.Proper sha256 hosts) {start place : ℕ × ι} {path : List (ℕ × ι)}
    {raft : RaftAddr} (hdel : Delivers (w.hop target sender) start path (place, raft)) :
    (hosts place.2).network.id = target := by
  obtain ⟨-, ⟨n, i⟩, -, -, hlast⟩ := hdel.invariant (P := fun _ => True) (fun _ _ h _ => h) trivial
  obtain ⟨-, htarget, hplace⟩ := hw.hop_deliver hlast
  obtain rfl : place = (n, i) := hplace
  exact htarget.symm

/-- **Only the target's own Raft actor gets an RPC.** However out of date the addresses on the way are, an RPC is
    delivered in the process whose network has the target's id, and it was the first such process on the way.
    Every process on the way knew the target and had isolated neither end. -/
theorem deliveredToTarget (sha256 : String → String) (hosts : ι → Host) (w : World ι D)
    (hw : w.Proper sha256 hosts) (target sender : NodeId) (start : ℕ × ι) (path : List (ℕ × ι))
    (place : ℕ × ι) (raft : RaftAddr) (hdel : Delivers (w.hop target sender) start path (place, raft)) :
    (start :: path).getLast (List.cons_ne_nil _ _) = place ∧ (hosts place.2).network.id = target ∧
      place.1 = start.1 + path.length ∧
      (∀ p ∈ (start :: path).dropLast, (hosts p.2).network.id ≠ target) ∧
      ∀ p ∈ start :: path, (w.visit p.1 p.2).accepted.network.Passes target sender := by
  generalize hd : (place, raft) = d at hdel
  induction hdel with
  | @here start d hhop =>
      subst hd
      obtain ⟨htakes, htarget, hplace⟩ := hw.hop_deliver hhop
      obtain rfl : place = start := hplace
      exact ⟨rfl, htarget.symm, rfl, by simp, by simpa using htakes.1⟩
  | @there start next path d hhop _ ih =>
      obtain ⟨htakes, hother, hnext⟩ := hw.hop_pass hhop
      obtain ⟨hlast, htarget, hcount, hfirst, hpasses⟩ := ih hd
      refine ⟨?_, htarget, ?_, ?_, List.forall_mem_cons.2 ⟨htakes.1, hpasses⟩⟩
      · rwa [List.getLast_cons (List.cons_ne_nil _ _)]
      · rw [hcount, hnext, List.length_cons]
        omega
      · rw [List.dropLast_cons_of_ne_nil (List.cons_ne_nil _ _)]
        exact List.forall_mem_cons.2 ⟨hother.symm, hfirst⟩

/-! ## What the sender gets -/

section EndToEnd

variable {Body : Type} [HttpBody Body]

/-- A network that forwards at once answers `Ok(r)` iff the node that it forwards to does. -/
theorem gate_forwarded_eq_ok {R : Type} {network : Network} {reply : Addr → Except MailboxError (Except Unit R)}
    {r : R} :
    (do let node ← network.gate target sender; forwarded (reply node)) = .ok r ↔
      ∃ addr, network.gate target sender = .ok addr ∧ reply addr = .ok (.ok r) := by
  constructor
  · intro hr
    obtain ⟨addr, hgate, hforwarded⟩ := bind_eq_ok.1 hr
    exact ⟨addr, hgate, forwarded_eq_ok.1 hforwarded⟩
  · rintro ⟨addr, hgate, hreply⟩
    rw [hgate]
    exact forwarded_eq_ok.2 hreply

theorem raftAnswers_appendEntries (v : Visit) (nodes : Addr → RaftAnswers D) (msg : AppendEntriesRequest D)
    (r : AppendEntriesResponse) :
    (v.accepted.network.raftAnswers v.polled.network nodes).appendEntries msg = .ok (.ok r) ↔
      ∃ addr, v.atOnce.forwardsTo msg.target msg.leaderId = some addr ∧
        (nodes addr).appendEntries msg = .ok (.ok r) := by
  simp only [Visit.atOnce_forwardsTo_eq_some]
  show mailboxAnswer (.ok (v.accepted.network.resolveAppendEntries nodes msg)) = _ ↔ _
  rw [mailboxAnswer_eq_ok, Except.ok.injEq]
  exact gate_forwarded_eq_ok

theorem raftAnswers_vote (v : Visit) (nodes : Addr → RaftAnswers D) (msg : VoteRequest) (r : VoteResponse) :
    (v.accepted.network.raftAnswers v.polled.network nodes).vote msg = .ok (.ok r) ↔
      ∃ addr, v.atOnce.forwardsTo msg.target msg.candidateId = some addr ∧
        (nodes addr).vote msg = .ok (.ok r) := by
  simp only [Visit.atOnce_forwardsTo_eq_some]
  show mailboxAnswer (.ok (v.accepted.network.resolveVote nodes msg)) = _ ↔ _
  rw [mailboxAnswer_eq_ok, Except.ok.injEq]
  exact gate_forwarded_eq_ok

theorem raftAnswers_installSnapshot (v : Visit) (nodes : Addr → RaftAnswers D) (msg : InstallSnapshotRequest)
    (r : InstallSnapshotResponse) :
    (v.accepted.network.raftAnswers v.polled.network nodes).installSnapshot msg = .ok (.ok r) ↔
      ∃ addr, v.forwardsTo msg.target msg.leaderId = some addr ∧
        (nodes addr).installSnapshot msg = .ok (.ok r) := by
  simp only [Visit.forwardsTo_eq_some]
  refine mailboxAnswer_eq_ok.trans ?_
  unfold Network.resolveInstallSnapshot
  constructor
  · intro hr
    obtain ⟨routed, hrouted, hforwarded⟩ := bind_eq_ok.1 hr
    obtain ⟨addr, rfl, hreply⟩ := bind_eq_ok.1 (Except.ok.inj hforwarded)
    exact ⟨addr, Network.handleInstallSnapshot_eq_ok.1 hrouted, forwarded_eq_ok.1 hreply⟩
  · rintro ⟨addr, hroute, hreply⟩
    rw [Network.handleInstallSnapshot_eq_ok.2 hroute]
    exact congrArg Except.ok (forwarded_eq_ok.2 hreply)

variable {cbor : Cbor D} {codecs : RaftCodecs Body} {rest : HttpServer Body} {dropped : Panic → ClientError}
  {refused : ClientError}

/-- An RPC from the Raft actor of process `i` is delivered to the Raft actor of the target within `fuel`
    processes, and gets the answer `r` there. If it leaves the process, the extractors on its way read it. -/
def AnsweredWithin {R : Type} (w : World ι D) (hosts : ι → Host) (target sender : NodeId) (Fitting : Prop)
    (ask : RaftAnswers D → Except MailboxError (Except Unit R)) (fuel : ℕ) (i : ι) (r : R) : Prop :=
  ∃ path n j raft, Delivers (w.hop target sender) (0, i) path ((n, j), raft) ∧ path.length < fuel ∧
    (path = [] ∨ Fitting) ∧ (hosts j).network.id = target ∧ ask (w.raft n j raft) = .ok (.ok r)

/-- The sender's view of one of the three RPCs; `w'` is the world as the RPC's gate sees it. -/
theorem answers_iff_answeredWithin {R : Type} {Fitting : Prop}
    {ask : RaftAnswers D → Except MailboxError (Except Unit R)} (hask : Relayed cbor codecs Fitting ask)
    (w : World ι D) {w' : World ι D} (hw' : w'.Proper sha256 hosts) (hraft : w'.raft = w.raft)
    (hnode : ∀ n i addr, w'.nodeHop n i addr = w.nodeHop n i addr) (r : R)
    (hnetwork : ∀ n i nodes,
      ask ((w.visit n i).accepted.network.raftAnswers (w.visit n i).polled.network nodes) = .ok (.ok r) ↔
        ∃ addr, (w'.visit n i).forwardsTo target sender = some addr ∧ ask (nodes addr) = .ok (.ok r))
    (fuel : ℕ) (i : ι) :
    ask (w.answers cbor codecs rest dropped refused fuel (0, i)) = .ok (.ok r) ↔
      w'.AnsweredWithin hosts target sender Fitting ask fuel i r := by
  refine (answers_iff (w'.hop target sender)
    (fun n p => ask (w.answers cbor codecs rest dropped refused n p) = .ok (.ok r))
    (fun d : (ℕ × ι) × RaftAddr => ask (w.raft d.1.1 d.1.2 d.2) = .ok (.ok r)) Fitting
    (fun _ => hask.unanswered _ _) (answers_succ hask w w' target sender r hnode hnetwork) fuel (0, i)).trans ?_
  constructor
  · rintro ⟨path, ⟨⟨n, j⟩, raft⟩, hdel, hlt, hfits, hanswer⟩
    exact ⟨path, n, j, raft, hdel, hlt, hfits, hw'.target_of_delivers hdel, by rw [hraft]; exact hanswer⟩
  · rintro ⟨path, n, j, raft, hdel, hlt, hfits, -, hanswer⟩
    exact ⟨path, ((n, j), raft), hdel, hlt, hfits, by rw [hraft] at hanswer; exact hanswer⟩

theorem answers_appendEntries (hcbor : cbor.Lawful) (hcodecs : codecs.Lawful) (hw : w.Proper sha256 hosts)
    (msg : AppendEntriesRequest D) (r : AppendEntriesResponse) (fuel : ℕ) (i : ι) :
    (w.answers cbor codecs rest dropped refused fuel (0, i)).appendEntries msg = .ok (.ok r) ↔
      w.atOnce.AnsweredWithin hosts msg.target msg.leaderId (msg.Fitting codecs cbor)
        (fun raft => raft.appendEntries msg) fuel i r :=
  answers_iff_answeredWithin (relayed_appendEntries hcbor hcodecs msg) w hw.atOnce rfl (fun _ _ _ => rfl) r
    (fun n i nodes => raftAnswers_appendEntries (w.visit n i) nodes msg r) fuel i

theorem answers_installSnapshot (hcodecs : codecs.Lawful) (hw : w.Proper sha256 hosts)
    (msg : InstallSnapshotRequest) (r : InstallSnapshotResponse) (fuel : ℕ) (i : ι) :
    (w.answers cbor codecs rest dropped refused fuel (0, i)).installSnapshot msg = .ok (.ok r) ↔
      w.AnsweredWithin hosts msg.target msg.leaderId (msg.Fitting codecs)
        (fun raft => raft.installSnapshot msg) fuel i r :=
  answers_iff_answeredWithin (relayed_installSnapshot hcodecs msg) w hw rfl (fun _ _ _ => rfl) r
    (fun n i nodes => raftAnswers_installSnapshot (w.visit n i) nodes msg r) fuel i

theorem answers_vote (hcodecs : codecs.Lawful) (hw : w.Proper sha256 hosts) (msg : VoteRequest)
    (r : VoteResponse) (fuel : ℕ) (i : ι) :
    (w.answers cbor codecs rest dropped refused fuel (0, i)).vote msg = .ok (.ok r) ↔
      w.atOnce.AnsweredWithin hosts msg.target msg.candidateId (msg.Fitting codecs)
        (fun raft => raft.vote msg) fuel i r :=
  answers_iff_answeredWithin (relayed_vote hcodecs msg) w hw.atOnce rfl (fun _ _ _ => rfl) r
    (fun n i nodes => raftAnswers_vote (w.visit n i) nodes msg r) fuel i

end EndToEnd

end World

/-! ## A sample delivery -/

def sampleOtherInfo : NodeInfo :=
  { name := "b", clusterAddress := "b:8000", appAddress := "b:8001", publicAddress := "b:8002" }

/-- A network with id 1 that is configured with node 0. -/
def sampleSeeded : Host :=
  let h := Host.new 0 1 sampleOtherInfo (Ring.new 10)
  h.withNodes (h.network.nodes.insert 0 { id := 0, info := some Host.sampleInfo, addr := none })

/-- Two networks: 0 knows nobody, 1 knows 0. -/
def sampleMembers : Bool → Host
  | false => finalState (Host.step fun _ => "") (Host.new 0 0 Host.sampleInfo (Ring.new 10)) [.started]
  | true => finalState (Host.step fun _ => "") sampleSeeded [.started]

/-- What the two do then: 1 registers its Raft actor and connects to 0, and 0 handles the request. -/
def sampleEvents : Bool → List HostEvent
  | false => [.message (.connectNode { id := 1, info := sampleOtherInfo })]
  | true => [.message (.registerRaft ⟨7⟩), .node ⟨0⟩ (.connect (.error (.timeout "operation timed out")))]

def sampleSettled (i : Bool) : Host :=
  finalState (Host.step fun _ => "") (sampleMembers i) (sampleEvents i)

theorem sampleMembers_justStarted (i : Bool) : Host.JustStarted (fun _ => "") (sampleMembers i) := by
  cases i with
  | false =>
      have hstart : Runs (Host.Step fun _ => "") (Host.new 0 0 Host.sampleInfo (Ring.new 10))
          [.started] (sampleMembers false) := runs_finalState rfl
      exact ⟨0, 0, Host.sampleInfo, Ring.new 10, [], hstart⟩
  | true =>
      have hid : Host.sampleInfo.nodeId (fun _ => "") = 0 := by
        simp [NodeInfo.nodeId, generateNodeId, fromBeBytes]
      have hconf : Host.Step (fun _ => "") (Host.new 0 1 sampleOtherInfo (Ring.new 10))
          (.configureWith [Host.sampleInfo]) sampleSeeded := by
        simp only [Host.step, stepOf_iff, Network.configureWith, List.foldl_cons, List.foldl_nil, hid]
        rfl
      have hstart : Runs (Host.Step fun _ => "") sampleSeeded [.started] (sampleMembers true) :=
        runs_finalState rfl
      exact ⟨0, 1, _, Ring.new 10, [[_]], .cons hconf hstart⟩

theorem runs_sampleSettled (i : Bool) :
    Runs (Host.Step fun _ => "") (sampleMembers i) (sampleEvents i) (sampleSettled i) := by
  cases i with
  | false => exact runs_finalState rfl
  | true => exact runs_finalState rfl

/-- The two networks stay as they are, and each listens at its own address. -/
def sampleWorld : World Bool Bool where
  visit _ i := { accepted := sampleSettled i, polled := sampleSettled i, handled := sampleSettled i }
  listener _ authority :=
    if authority = "a:8000" then some false else if authority = "b:8000" then some true else none
  raft _ _ _ := sampleAnswers

theorem sampleWorld_proper : sampleWorld.Proper (fun _ => "") sampleSettled where
  reachable i := (sampleMembers_justStarted i).reachable.runs (runs_sampleSettled i)
  visits _ _ := ⟨⟨[], .nil _⟩, ⟨[], .nil _⟩, ⟨[], .nil _⟩⟩

/-- An RPC from 0 for 1 is passed to 1, whose Raft actor gets it. -/
theorem sampleWorld_delivers :
    Delivers (sampleWorld.hop 1 0) (0, false) [(1, true)] ((1, true), ⟨7⟩) :=
  .there rfl (.here rfl)

theorem deliveredToTarget_sample :
    (sampleSettled true).network.id = 1 ∧ ∀ p ∈ [(0, false), (1, true)],
      (sampleWorld.visit p.1 p.2).accepted.network.Passes 1 0 :=
  have hdelivered := World.deliveredToTarget (fun _ => "") sampleSettled sampleWorld sampleWorld_proper 1 0
    (0, false) [(1, true)] (1, true) ⟨7⟩ sampleWorld_delivers
  ⟨hdelivered.2.1, hdelivered.2.2.2.2⟩

end RaftScaffold
