import RaftScaffold.Network.Handshake
import RaftScaffold.Network.LeaderDelegate

set_option autoImplicit false

/-! # What the leader's acknowledgement is worth

A leader that handles a `ConnectNode` has its local node propose to Raft that the new member be added, and tells
the sender that the change was acknowledged by the leader. On the way back from Raft the outcome passes the
task of `LocalNode::change_cluster_config`, the local node, the delegation and the handler of `ConnectNode`.
The first of these drops it: the proposal is spawned and `Ok` returned at once. So the reply says nothing of
Raft, and is right exactly when Raft accepts, or when the local node could not be asked
(`Host.acknowledgesAccepted_iff`). -/

namespace RaftScaffold

open Transition

/-- `actix_raft::admin::ProposeConfigChangeError`; a client error by its text. -/
inductive ProposeConfigChangeError where
  | clientError (text : String)
  | inoperableConfig
  | internal
  | nodeNotLeader (leader : Option NodeId)
  | noop
  deriving DecidableEq, Repr

/-- What sending a `ProposeConfigChange` to a Raft actor comes to. -/
abbrev ProposalOutcome : Type := Except MailboxError (Except ProposeConfigChangeError Unit)

/-- `LocalNode::change_cluster_config` where the proposal has the given outcome: its result, and what the task
    that it spawns comes to. The task logs an error and nothing awaits it. -/
def LocalNode.changeClusterConfig (_self : LocalNode) (outcome : ProposalOutcome) :
    Except NodeError Unit × Except Unit Unit :=
  let task : Except Unit Unit :=
    match outcome with
    | .error _ => .error ()
    | .ok (.ok _) => .ok ()
    | .ok (.error _) => .error ()
  (.ok (), task)

/-- `Network::is_leader`. -/
def Network.isLeader (self : Network) : Bool :=
  match self.metrics.map RaftMetrics.currentLeader with
  | some (some leaderId) => self.id == leaderId
  | _ => false

namespace Host

/-- The outcome of the proposal that a local node at `addr` makes; `raft` says what the Raft actors do. -/
def proposalOutcome (self : Host) (raft : RaftAddr → ChangeClusterConfig → ProposalOutcome) (addr : Addr)
    (command : ChangeClusterConfig) : Option ProposalOutcome :=
  (self.actorAt addr).bind fun actor =>
    match actor.node.proximity with
    | .localNode node => some (raft node.raft command)
    | .remoteNode _ => none

/-- What a leader's reply to the `ConnectNode` of node `id` promises about the proposal's outcome: it is an
    acknowledgement only if Raft accepted the change, and an error if Raft refused it or did not get it. -/
structure AcknowledgesAccepted (answer : Except MailboxError (Except NetworkError Acknowledged))
    (outcome : Option ProposalOutcome) : Prop where
  acknowledged : ∀ ack, answer = .ok (.ok ack) → outcome = some (.ok (.ok ()))
  refused : outcome ≠ some (.ok (.ok ())) → ∃ err, answer = .ok (.error err)

/-- A leader with a started node delegates to this node. -/
theorem WellFormed.leaderDelegate_of_isLeader {h : Host} (hw : WellFormed h)
    (hleader : h.network.isLeader = true) {addr : Addr}
    (hnode : h.network.getNode h.network.id = some addr) : h.network.leaderDelegate = .ok addr := by
  obtain ⟨lref, hlookup, haddr⟩ := Option.bind_eq_some_iff.1 hnode
  have href : h.network.leaderRef = some lref := by
    unfold Network.isLeader at hleader
    unfold Network.leaderRef
    cases hmetrics : h.network.metrics with
    | none => simp [hmetrics] at hleader
    | some metrics =>
        cases hcurrent : metrics.currentLeader with
        | none => simp [hmetrics, hcurrent] at hleader
        | some leaderId =>
            simp only [hmetrics, Option.map_some, hcurrent, beq_iff_eq] at hleader
            simp [hcurrent, ← hleader, hlookup]
  have hown : lref.id = h.network.id := (hw.entries _ lref hlookup).keyed
  simp [Network.leaderDelegate, href, haddr, hown]

/-- The local node could not be asked: its mailbox fails, or it has stopped. -/
def NodeUnreachable (h : Host) (lost : Addr → Option MailboxError) (addr : Addr) : Prop :=
  (lost addr).isSome ∨ ∃ actor, h.actorAt addr = some actor ∧ actor.stopped = true

/-- **When a leader's acknowledgement means that the change was accepted.** For every reachable state, every
    `ConnectNode`, whatever is handled before the future that delegates it is polled, and every outcome of
    the proposal: if the network then is the leader and its local node is started, its reply is right about
    the outcome if and only if Raft accepts the change or the local node cannot be asked. -/
theorem acknowledgesAccepted_iff (sha256 : String → String) (h accepted polled : Host)
    (hr : Reachable sha256 h) (command : ConnectNode) (haccept : h.handleConnectNode command = .ok accepted)
    (between : List HostEvent) (hbetween : Runs (Step sha256) accepted between polled)
    (hleader : polled.network.isLeader = true) (addr : Addr)
    (hstarted : polled.network.getNode polled.network.id = some addr)
    (lost : Addr → Option MailboxError) (raft : RaftAddr → ChangeClusterConfig → ProposalOutcome) :
    let outcome := polled.proposalOutcome raft addr (ChangeClusterConfig.newToAdd [command.id])
    AcknowledgesAccepted (h.answerConnectNode sha256 between lost command) outcome ↔
      outcome = some (.ok (.ok ())) ∨ polled.NodeUnreachable lost addr := by
  intro outcome
  have hw := (hr.runsBetween haccept hbetween).wellFormed
  rw [answerConnectNode_eq haccept hbetween lost, connectNodeAnswer, askLeader,
    hw.leaderDelegate_of_isLeader hleader hstarted]
  obtain ⟨actor, info, hactor, hserves⟩ := hw.getNode_serves hstarted
  obtain ⟨raftAddr, hprox⟩ := hserves.local
  show AcknowledgesAccepted (.ok (connectNodeReply (polled.askNode lost addr _))) outcome ↔ _
  rcases askNode_local lost hactor hprox (ChangeClusterConfig.newToAdd [command.id]) with
    ⟨⟨err, herr⟩, hdown⟩ | ⟨hok, hup, hruns⟩
  · -- the error of the mailbox is the reply
    rw [herr]
    refine iff_of_true ⟨fun ack hack => (by cases hack), fun _ => ⟨_, rfl⟩⟩ (.inr ?_)
    exact hdown.imp_right fun hstopped => ⟨actor, hactor, hstopped⟩
  · rw [hok]
    constructor
    · intro hagrees
      exact .inl (hagrees.acknowledged {} rfl)
    · rintro (haccepted | hlost | ⟨actor', hactor', hstopped⟩)
      · exact ⟨fun _ _ => haccepted, fun hrefused => absurd haccepted hrefused⟩
      · rw [hup] at hlost
        cases hlost
      · obtain rfl := Option.some.inj (hactor.symm.trans hactor')
        rw [hruns] at hstopped
        cases hstopped

/-- A leader whose local node is started. -/
def sampleLeader : Host :=
  sampleRun [.started, .message (.registerRaft ⟨0⟩), .message (.raftMetrics 1 leaderMetrics)]

theorem sampleLeader_reachable : Reachable (fun _ => "") sampleLeader :=
  ⟨0, 1, sampleInfo, Ring.new 10, _, runs_sampleRun rfl⟩

/-- The acknowledgement is right where Raft accepts every change. -/
theorem acknowledgesAccepted_accepted :
    ∃ accepted, sampleLeader.handleConnectNode { id := 2, info := sampleInfo } = .ok accepted ∧
      AcknowledgesAccepted
        (sampleLeader.answerConnectNode (fun _ => "") [] (fun _ => none) { id := 2, info := sampleInfo })
        (accepted.proposalOutcome (fun _ _ => .ok (.ok ())) ⟨0⟩ (ChangeClusterConfig.newToAdd [2])) := by
  refine ⟨_, rfl, ?_⟩
  exact (acknowledgesAccepted_iff (fun _ => "") sampleLeader _ _ sampleLeader_reachable
    { id := 2, info := sampleInfo } rfl [] (.nil _) (by decide) ⟨0⟩ (by decide) (fun _ => none)
    (fun _ _ => .ok (.ok ()))).2 (.inl rfl)

/-- But a change that Raft refuses as no change is acknowledged as well. -/
theorem acknowledgesAccepted_fails :
    ¬ ∀ sha256 h accepted polled, Reachable sha256 h → ∀ command : ConnectNode,
      h.handleConnectNode command = .ok accepted → ∀ between, Runs (Step sha256) accepted between polled →
      polled.network.isLeader = true → ∀ addr, polled.network.getNode polled.network.id = some addr →
      ∀ lost raft, AcknowledgesAccepted (h.answerConnectNode sha256 between lost command)
        (polled.proposalOutcome raft addr (ChangeClusterConfig.newToAdd [command.id])) := by
  intro hall
  have hagrees := hall (fun _ => "") _ _ _ sampleLeader_reachable { id := 2, info := sampleInfo } rfl []
    (.nil _) (by decide) ⟨0⟩ (by decide) (fun _ => none) (fun _ _ => .ok (.error .noop))
  cases hagrees.acknowledged {} rfl

end Host

end RaftScaffold
