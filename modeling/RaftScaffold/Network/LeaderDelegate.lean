import RaftScaffold.Network.Leader
import RaftScaffold.Network.NodeTable
import RaftScaffold.Network.RoleHistory

set_option autoImplicit false

/-! # Who the leader is

`leader_delegate` answers with the own node's address, with the leader to turn to, or with the notice
that there is no elected leader. It reads the leader off the metrics but answers from the table entry,
so a leader that the metrics name and the table lacks is taken for no leader at all. The answer is right
exactly as long as the leader is registered (`Host.classifiesLeader_iff`): no metrics name a leader that
is not, and no `DisconnectNode` removes the one they name. -/

namespace RaftScaffold

open Transition

/-! ## Client requests -/

/-- `Handler<ClientRequest>` up to the request it forwards: the delegate is looked up in the network
    that accepts the request, the node of another leader in the one that polls the future. -/
def clientLeader (accepted polled : Network) : Except NetworkError Addr :=
  match accepted.leaderDelegate with
  | .ok leader => .ok leader
  | .error (.notLeader (some lid) leaderAddress) =>
      match polled.getNode lid with
      | some leaderNode => .ok leaderNode
      | none => .error (.notLeader (some lid) leaderAddress)
  | .error err => .error err

/-- The answer to a request that was sent on: the node's own, unless its mailbox fails. -/
def forwardReply {R E : Type} (fromMailbox : MailboxError → E) :
    Except MailboxError (Except E R) → Except E R
  | .error err => .error (fromMailbox err)
  | .ok res => res

/-- `Handler<ClientRequest>`: `send` is the answer of the leader's node, and `fromNetwork` and
    `fromMailbox` are the conversions of the application's error type. -/
def handleClientRequest {R E : Type} (fromNetwork : NetworkError → E) (fromMailbox : MailboxError → E)
    (send : Addr → Except MailboxError (Except E R)) (accepted polled : Network) : Except E R :=
  match clientLeader accepted polled with
  | .error err => .error (fromNetwork err)
  | .ok leader => forwardReply fromMailbox (send leader)

/-! ## The answers of the delegate -/

namespace Network

theorem leaderRef_eq (network : Network) :
    network.leaderRef = network.currentLeader.bind fun l => network.nodes[l]? := by
  unfold leaderRef currentLeader
  cases network.metrics <;> rfl

end Network

namespace Host

/-! ## When the answers are right -/

/-- The answers of `leader_delegate` and of the two handlers that rely on it tell the three situations
    apart: this network leads and its node is started, another node leads, or no leader is known. -/
structure ClassifiesLeader (h : Host) : Prop where
  ownLeader : ∀ addr, h.network.leaderDelegate = .ok addr ↔
    h.network.currentLeader = some h.network.id ∧ h.network.getNode h.network.id = some addr
  noLeader : h.network.leaderDelegate = .error .noElectedLeader ↔ h.network.currentLeader = none
  remoteLeader : ∀ l, h.network.currentLeader = some l → l ≠ h.network.id →
    ∃ address, h.network.leaderDelegate = .error (.notLeader (some l) address) ∧
      ∀ nodeRef info, h.network.nodes[l]? = some nodeRef → nodeRef.info = some info →
        address = some info.clusterAddress
  connectNode : ∀ l, h.network.currentLeader = some l → l ≠ h.network.id →
    ∀ command, ∃ address, h.delegateToLeader command = .error (.notLeader (some l) address)
  clientRequest : ∀ l, h.network.currentLeader = some l → l ≠ h.network.id →
    ∀ (R E : Type) (fromNetwork : NetworkError → E) (fromMailbox : MailboxError → E)
      (send : Addr → Except MailboxError (Except E R)) (polled : Network),
      (∃ leader, polled.getNode l = some leader ∧
        handleClientRequest fromNetwork fromMailbox send h.network polled =
          forwardReply fromMailbox (send leader)) ∨
      ∃ address, handleClientRequest fromNetwork fromMailbox send h.network polled =
        .error (fromNetwork (.notLeader (some l) address))

/-- The leader that the metrics name, if any, is registered. -/
def LeaderKnown (h : Host) : Prop :=
  ∀ l, h.network.currentLeader = some l → l ∈ h.network.nodes

theorem ClassifiesLeader.leaderKnown {h : Host} (hc : ClassifiesLeader h) : LeaderKnown h := by
  intro l hleader
  by_contra hmem
  -- a leader outside the table is answered as no leader
  have href : h.network.leaderRef = none := by
    rw [Network.leaderRef_eq, hleader]
    exact Std.ExtTreeMap.getElem?_eq_none hmem
  have hnone : h.network.currentLeader = none := by
    refine hc.noLeader.1 ?_
    rw [Network.leaderDelegate, href]
  rw [hleader] at hnone
  cases hnone

theorem WellFormed.currentLeader_eq {h : Host} (hw : WellFormed h) {lref : NodeRef}
    (href : h.network.leaderRef = some lref) : h.network.currentLeader = some lref.id := by
  rw [Network.leaderRef_eq] at href
  obtain ⟨l, hleader, hlookup⟩ := Option.bind_eq_some_iff.1 href
  rw [(hw.entries l lref hlookup).keyed]
  exact hleader

/-- `ConnectNode` passes an answer that names another leader on. -/
theorem delegateToLeader_notLeader {h : Host} {l : NodeId} {address : Option String}
    (hdelegate : h.network.leaderDelegate = .error (.notLeader (some l) address))
    (command : ChangeClusterConfig) :
    h.delegateToLeader command = .error (.notLeader (some l) address) := by
  simp [delegateToLeader, hdelegate, bind, Except.bind]

/-- `ClientRequest` forwards to the node of another leader, or answers who it is. -/
theorem handleClientRequest_notLeader {R E : Type} {accepted : Network} {l : NodeId}
    {address : Option String}
    (hdelegate : accepted.leaderDelegate = .error (.notLeader (some l) address))
    (fromNetwork : NetworkError → E) (fromMailbox : MailboxError → E)
    (send : Addr → Except MailboxError (Except E R)) (polled : Network) :
    handleClientRequest fromNetwork fromMailbox send accepted polled =
      match polled.getNode l with
      | some leader => forwardReply fromMailbox (send leader)
      | none => .error (fromNetwork (.notLeader (some l) address)) := by
  unfold handleClientRequest clientLeader
  rw [hdelegate]
  cases hnode : polled.getNode l with
  | none => simp only [hnode]
  | some leader => simp only [hnode]

theorem WellFormed.classifiesLeader {h : Host} (hw : WellFormed h) (hknown : LeaderKnown h) :
    ClassifiesLeader h := by
  rcases hw.leaderDelegate_cases with ⟨href, hdelegate⟩ | ⟨lref, info, href, hinfo, hcases⟩
  · have hleader : h.network.currentLeader = none := by
      refine Option.eq_none_iff_forall_not_mem.2 fun l hleader => ?_
      obtain ⟨nodeRef, hlookup⟩ := (NodeTable.mem_iff _ _).1 (hknown l hleader)
      rw [Network.leaderRef_eq, hleader, Option.bind_some, hlookup] at href
      cases href
    constructor <;> simp [hleader, hdelegate]
  · have hleader := hw.currentLeader_eq href
    have hlookup := hw.leaderRef_lookup href
    rcases hcases with ⟨hother, hdelegate⟩ | ⟨hown, haddr, hdelegate⟩ |
      ⟨hown, addr, actor, haddr, -, -, hdelegate⟩
    · refine ⟨?_, ?_, ?_, ?_, ?_⟩
      · intro addr
        simp [hleader, hdelegate, hother]
      · simp [hleader, hdelegate]
      · intro l hl _
        obtain rfl := Option.some.inj (hleader.symm.trans hl)
        refine ⟨_, hdelegate, fun nodeRef info' hlookup' hinfo' => ?_⟩
        obtain rfl := Option.some.inj (hlookup.symm.trans hlookup')
        rw [Option.some.inj (hinfo.symm.trans hinfo')]
      · intro l hl _ command
        obtain rfl := Option.some.inj (hleader.symm.trans hl)
        exact ⟨_, delegateToLeader_notLeader hdelegate command⟩
      · intro l hl _ R E fromNetwork fromMailbox send polled
        obtain rfl := Option.some.inj (hleader.symm.trans hl)
        rw [handleClientRequest_notLeader hdelegate]
        cases polled.getNode lref.id with
        | none => exact .inr ⟨_, rfl⟩
        | some leader => exact .inl ⟨leader, rfl, rfl⟩
    all_goals
      have hnode : h.network.getNode h.network.id = lref.addr := by
        rw [Network.getNode, ← hown, hlookup, Option.bind_some]
      constructor <;> simp [hleader, hdelegate, hnode, hown, haddr]

theorem WellFormed.classifies_iff_known {h : Host} (hw : WellFormed h) :
    ClassifiesLeader h ↔ LeaderKnown h :=
  ⟨fun hc => hc.leaderKnown, hw.classifiesLeader⟩

/-! ## Over runs -/

/-- The event names no leader that is not registered, and removes none. -/
def KeepsLeaderKnown (h : Host) : HostEvent → Prop
  | .message (.raftMetrics _ metrics) => ∀ l, metrics.currentLeader = some l → l ∈ h.network.nodes
  | .message (.disconnectNode command) => h.network.currentLeader ≠ some command.id
  | _ => True

theorem LeaderKnown.disconnectNode_iff {h : Host} (hknown : LeaderKnown h) (command : DisconnectNode) :
    LeaderKnown { h with network := h.network.handleDisconnectNode command } ↔
      h.network.currentLeader ≠ some command.id := by
  constructor
  · intro hknown' hleader
    have hmem := hknown' command.id hleader
    simp [Network.handleDisconnectNode] at hmem
  · intro hne l hleader
    refine Std.ExtTreeMap.mem_erase.2 ⟨?_, hknown l hleader⟩
    simp only [ne_eq, Std.LawfulEqCmp.compare_eq_iff_eq]
    rintro rfl
    exact hne hleader

/-- The step lemma: only metrics and a `DisconnectNode` can lose the leader. -/
theorem leaderKnown_step {sha256 : String → String} {h h' : Host} {e : HostEvent}
    (hknown : LeaderKnown h) (hstep : Step sha256 h e h') :
    LeaderKnown h' ↔ KeepsLeaderKnown h e := by
  have heff := step_cases hstep
  -- the other events keep the metrics and every entry
  have hkeep (hmetrics : e.metrics = none)
      (hremoves : ∀ command, e ≠ .message (.disconnectNode command)) : LeaderKnown h' := by
    intro l hleader
    refine heff.mem_nodes (hknown l ?_) fun command heq => absurd heq (hremoves command)
    unfold Network.currentLeader at hleader ⊢
    rwa [(heff.sameLifecycle hmetrics).metrics] at hleader
  cases e with
  | message msg =>
      cases msg with
      | raftMetrics now metrics =>
          obtain ⟨state, -, rfl⟩ := heff
          exact Iff.rfl
      | disconnectNode command =>
          rw [heff]
          exact hknown.disconnectNode_iff command
      | _ => exact iff_of_true (hkeep rfl (by simp)) trivial
  | _ => exact iff_of_true (hkeep rfl (by simp)) trivial

/-- **When the leader is classified correctly.** In every reachable state the delegate and the handlers
    that rely on it classify the leader correctly if and only if the leader that the metrics name, if
    any, is registered; and along any run of a new network they do so in every state reached if and only
    if all metrics that are handled name a registered leader or none, and no `DisconnectNode` that is
    handled removes the current one. -/
theorem classifiesLeader_iff (sha256 : String → String) :
    (∀ h, Reachable sha256 h → (ClassifiesLeader h ↔ LeaderKnown h)) ∧
    ∀ now id info ring es,
      HoldsAlong (Step sha256) ClassifiesLeader (Host.new now id info ring) es ↔
        GuardedAlong (Step sha256) KeepsLeaderKnown (Host.new now id info ring) es := by
  refine ⟨fun h hr => hr.wellFormed.classifies_iff_known, fun now id info ring es => ?_⟩
  have hcongr : HoldsAlong (Step sha256) ClassifiesLeader (Host.new now id info ring) es ↔
      HoldsAlong (Step sha256) LeaderKnown (Host.new now id info ring) es :=
    holdsAlong_congr (I := WellFormed) (fun h e h' hw hstep => (step_cases hstep).wellFormed hw)
      (fun h hw => hw.classifies_iff_known) (wellFormed_new now id info ring) es
  rw [hcongr]
  refine holdsAlong_iff_guardedAlong (fun h e h' hknown hstep => leaderKnown_step hknown hstep) _ _ ?_
  intro l hleader
  cases hleader

/-- A leader that joined is known to a network that does not lead. -/
theorem classifiesLeader_joined :
    ClassifiesLeader (sampleRun [.started, .message (.connectNode { id := 2, info := sampleInfo }),
      .message (.raftMetrics 1 { nonVoterMetrics with currentLeader := some 2 })]) := by
  refine ((classifiesLeader_iff fun _ => "").1 _
    ⟨0, 1, sampleInfo, Ring.new 10, _, runs_sampleRun rfl⟩).2 fun l hleader => ?_
  obtain rfl : (2 : NodeId) = l := Option.some.inj hleader
  decide

/-- A leader that Raft elects before it is registered here is taken for no leader. -/
theorem classifiesLeader_fails :
    ¬ ∀ sha256 h, StartedReachable sha256 h → ClassifiesLeader h := by
  intro hall
  let es : List HostEvent := [.message (.raftMetrics 1 { nonVoterMetrics with currentLeader := some 2 })]
  have hstarted : JustStarted (fun _ => "") (sampleRun [.started]) :=
    ⟨0, 1, sampleInfo, Ring.new 10, [], runs_sampleRun rfl⟩
  have hs : StartedReachable (fun _ => "") (sampleRun (.started :: es)) :=
    ⟨_, es, hstarted, by decide, runs_finalState (s := sampleRun [.started]) rfl⟩
  have hnone := (hall _ _ hs).noLeader.1 rfl
  cases hnone

end Host

end RaftScaffold
