import Mathlib.Algebra.Order.Group.Multiset
import Mathlib.Tactic.Abel
import RaftScaffold.Network.NodeTable
import RaftScaffold.Transition.Accounts

set_option autoImplicit false

/-! # What becomes of a configuration change

Every `ConnectNode` that a network handles asks for one change of the cluster's configuration: to add the node. The
future of the handler delegates the change to the network's own `Node` if this network leads; if it does not, or
its node is not started, the sender of the `ConnectNode` gets an error and the change is dropped. The node's actor
proposes it to Raft; a change that was sent to a node that has stopped stays on its way.

`proposals_accounted` balances the account of these changes: at any time each is waiting for its future, on its
way to the node, proposed, or dropped, exactly once. A process never proposes anything else, in particular no
removal. -/

namespace RaftScaffold

open Transition

/-- The configuration change that a message carries. -/
def NodeMsg.change : NodeMsg → Option ChangeClusterConfig
  | .updateProximity _ => none
  | .changeClusterConfig command => some command

/-- The configuration changes that an event asks for. -/
def HostEvent.changes : HostEvent → Multiset ChangeClusterConfig
  | .message (.connectNode command) => {ChangeClusterConfig.newToAdd [command.id]}
  | _ => 0

namespace Host

/-- The changes on their way to a node. -/
def sent (self : Host) : Multiset ChangeClusterConfig := self.outbox.filterMap fun x => x.2.change

/-- The changes that nodes have proposed to Raft. -/
def proposed (self : Host) : Multiset ChangeClusterConfig :=
  (self.actors.map fun actor => (actor.proposals : Multiset ChangeClusterConfig)).sum

def changes (self : Host) : Multiset ChangeClusterConfig := self.delegations + self.sent + self.proposed

/-- The changes that an event drops: this network does not lead, or its node is not started. -/
def dropped (self : Host) : HostEvent → Multiset ChangeClusterConfig
  | .delegate n =>
      match self.delegations[n]?, self.network.leaderDelegate with
      | some command, .error _ => {command}
      | _, _ => 0
  | _ => 0

/-! ## The actors' proposals -/

theorem proposed_setActor {h : Host} {addr : Addr} {actor : NodeActor} (hactor : h.actorAt addr = some actor)
    (actor' : NodeActor) (outbox : List (Addr × NodeMsg)) :
    ({ h with outbox, actors := h.actors.set addr.index actor' } : Host).proposed + actor.proposals =
      h.proposed + actor'.proposals := by
  obtain ⟨hlt, rfl⟩ := List.getElem?_eq_some_iff.1 hactor
  -- both lists are the other actors and one more
  have hset := (List.set_perm_cons_eraseIdx hlt actor').map fun a => (a.proposals : Multiset ChangeClusterConfig)
  have hold := (List.getElem_cons_eraseIdx_perm hlt).map fun a => (a.proposals : Multiset ChangeClusterConfig)
  simp only [proposed, hset.sum_eq, ← hold.sum_eq, List.map_cons, List.sum_cons]
  abel

theorem registered_proposed (h : Host) (id : NodeId) (info : NodeInfo) :
    (h.registered id info).proposed = h.proposed := by
  simp only [proposed, registered, newActors, List.map_append, List.sum_append]
  cases h.newProximity id info with
  | none => simp
  | some proximity => simp [NodeActor.start]

end Host

/-- What an actor that meets the event proposes. -/
def NodeEvent.proposal : NodeEvent → List ChangeClusterConfig
  | .changeClusterConfig command => [command]
  | _ => []

theorem NodeActor.Effect.proposals {a a' : NodeActor} {e : NodeEvent} (heff : a.Effect e a') :
    a'.proposals = a.proposals ++ e.proposal := by
  cases e with
  | connect exchange =>
      obtain ⟨-, heff⟩ := heff
      cases hprox : a.node.proximity.connect exchange with
      | ok ack => rw [hprox] at heff; simp [heff, NodeEvent.proposal]
      | error err => rw [hprox] at heff; simp [heff, NodeEvent.proposal]
  | connected => simp [heff.2, NodeEvent.proposal]
  | retry => simp [heff.2, NodeEvent.proposal]
  | disconnect =>
      obtain rfl : a' = a := heff
      simp [NodeEvent.proposal]
  | updateProximity proximity =>
      obtain rfl : a' = a.updateProximity proximity := heff
      simp [NodeActor.updateProximity, NodeEvent.proposal]
  | changeClusterConfig command => simp [heff.2, NodeEvent.proposal]
  | raftRpc exchange =>
      obtain rfl : a' = a := heff
      simp [NodeEvent.proposal]
  | stopping =>
      obtain rfl : a' = { a with stopped := true } := heff
      simp [NodeEvent.proposal]

/-! ## One step -/

namespace Host

theorem registered_changes (h : Host) (id : NodeId) (info : NodeInfo) :
    (h.registered id info).changes = h.changes := by
  simp only [changes, registered_proposed]
  rfl

theorem startEntry_changes (h : Host) (entry : NodeId × NodeRef) : (h.startEntry entry).changes = h.changes := by
  unfold startEntry
  split
  · exact registered_changes _ _ _
  · rfl

theorem connected_changes (h : Host) (command : ConnectNode) : (h.connected command).changes = h.changes := by
  unfold connected
  split
  · rfl
  · exact registered_changes _ _ _

theorem changes_request (h : Host) (command : ChangeClusterConfig) :
    ({ h with delegations := h.delegations ++ [command] } : Host).changes = h.changes + {command} := by
  simp only [changes, ← Multiset.coe_add, Multiset.coe_singleton]
  show (h.delegations : Multiset ChangeClusterConfig) + {command} + h.sent + h.proposed = _
  abel

theorem changes_delegate (h : Host) {n : Nat} {command : ChangeClusterConfig}
    (hcommand : h.delegations[n]? = some command) :
    ({ h with delegations := h.delegations.eraseIdx n } : Host).changes + {command} = h.changes := by
  obtain ⟨hlt, rfl⟩ := List.getElem?_eq_some_iff.1 hcommand
  have hperm : (h.delegations : Multiset ChangeClusterConfig) =
      {h.delegations[n]} + (h.delegations.eraseIdx n : Multiset ChangeClusterConfig) :=
    (Multiset.coe_eq_coe.2 (List.getElem_cons_eraseIdx_perm hlt)).symm
  simp only [changes, hperm]
  show (h.delegations.eraseIdx n : Multiset ChangeClusterConfig) + h.sent + h.proposed + _ = _
  abel

theorem changes_send (h : Host) (addr : Addr) (command : ChangeClusterConfig) :
    (h.send addr (.changeClusterConfig command)).changes = h.changes + {command} := by
  have hsent : (h.send addr (.changeClusterConfig command)).sent = h.sent + {command} := by
    simp only [sent, send, List.filterMap_append]
    rfl
  simp only [changes, hsent]
  show (h.delegations : Multiset ChangeClusterConfig) + (h.sent + {command}) + h.proposed = _
  abel

/-- A message that is delivered leaves the outbox, and the actor proposes the change that it carries. -/
theorem changes_deliver {h : Host} {n : Nat} {addr : Addr} {msg : NodeMsg} {actor actor' : NodeActor}
    (hmsg : h.outbox[n]? = some (addr, msg)) (hactor : h.actorAt addr = some actor)
    (heff : actor.Effect msg.event actor') :
    ({ h with outbox := h.outbox.eraseIdx n, actors := h.actors.set addr.index actor' } : Host).changes =
      h.changes := by
  obtain ⟨hlt, hget⟩ := List.getElem?_eq_some_iff.1 hmsg
  have hperm := (List.getElem_cons_eraseIdx_perm hlt).filterMap fun x => x.2.change
  rw [hget] at hperm
  have hsent : h.sent = (msg.change.toList : Multiset ChangeClusterConfig) +
      ((h.outbox.eraseIdx n).filterMap fun x => x.2.change : List ChangeClusterConfig) := by
    rw [sent, ← Multiset.coe_eq_coe.2 hperm, List.filterMap_cons]
    cases msg.change <;> rfl
  have hproposal : msg.event.proposal = msg.change.toList := by cases msg <;> rfl
  have hproposed := proposed_setActor hactor actor' (h.outbox.eraseIdx n)
  rw [heff.proposals, hproposal, ← Multiset.coe_add] at hproposed
  refine add_right_cancel (b := (actor.proposals : Multiset ChangeClusterConfig)) ?_
  rw [changes, add_assoc, hproposed, changes, hsent]
  show (h.delegations : Multiset ChangeClusterConfig) +
    ((h.outbox.eraseIdx n).filterMap fun x => x.2.change : List ChangeClusterConfig) + _ = _
  abel

/-- **Every step balances.** -/
theorem changes_step {sha256 : String → String} {h h' : Host} {e : HostEvent} (hw : WellFormed h)
    (hstep : h.step sha256 e = .ok h') : h'.changes + h.dropped e = h.changes + e.changes := by
  have heff : h.Effect sha256 e h' := step_cases hstep
  have hsame : h'.changes = h.changes → h.dropped e = 0 → e.changes = 0 →
      h'.changes + h.dropped e = h.changes + e.changes := by
    intro hchanges hdropped hnew
    rw [hchanges, hdropped, hnew]
  cases e with
  | configureWith seeds =>
      rw [heff, Network.configureWith_eq] at hsame ⊢
      exact hsame rfl rfl rfl
  | started =>
      refine hsame ?_ rfl rfl
      rw [heff]
      exact List.foldlRecOn (motive := fun h' : Host => h'.changes = h.changes) _ _ rfl
        fun h' hchanges entry _ => (startEntry_changes h' entry).trans hchanges
  | message msg =>
      cases msg with
      | registerRaft raft =>
          refine hsame ?_ rfl rfl
          obtain ⟨_, info, -, -, ⟨addr, -, rfl⟩ | ⟨-, rfl⟩⟩ := hw.registersRaft_cases heff
          · simp only [changes, sent, send, withRaft, List.filterMap_append]
            simp [NodeMsg.change, proposed]
          · exact registered_changes (h.withRaft raft) _ _
      | raftMetrics now metrics => obtain ⟨state, -, rfl⟩ := heff; exact hsame rfl rfl rfl
      | bindEndpoint startServer => obtain ⟨server, rfl⟩ := heff; exact hsame rfl rfl rfl
      | query query => obtain ⟨_, _, rfl⟩ := heff; exact hsame rfl rfl rfl
      | handleNodeStatusChange msg => exact hsame (by rw [heff]; rfl) rfl rfl
      | connectNode command =>
          simp only [step, handle_connectNode, orPanic_eq_ok, Except.ok.injEq] at hstep
          rw [← hstep, changes_request, connected_changes]
          exact add_zero _
      | disconnectNode command => exact hsame (by rw [heff]; rfl) rfl rfl
  | delegate n =>
      obtain ⟨command, hcommand, ⟨leader, hleader, rfl⟩ | ⟨err, hleader, rfl⟩⟩ := step_delegate hstep
      · rw [changes_send, changes_delegate h hcommand]
        simp [dropped, hcommand, hleader, HostEvent.changes]
      · have hdropped : h.dropped (.delegate n) = {command} := by simp [dropped, hcommand, hleader]
        rw [hdropped, changes_delegate h hcommand]
        simp [HostEvent.changes]
  | deliver n =>
      obtain ⟨addr, msg, actor, actor', hmsg, hactor, hactorStep, rfl⟩ := heff
      refine hsame ?_ rfl rfl
      exact changes_deliver hmsg hactor (NodeActor.step_cases (hw.initialized addr actor hactor) hactorStep).2
  | node addr event =>
      obtain ⟨hown, actor, actor', hactor, hactorStep, rfl⟩ := heff
      have hactorEff := (NodeActor.step_cases (hw.initialized addr actor hactor) hactorStep).2
      refine hsame ?_ rfl rfl
      have hproposal : event.proposal = [] := by cases event <;> first | rfl | cases hown
      have hproposed := proposed_setActor hactor actor' h.outbox
      rw [hactorEff.proposals, hproposal, List.append_nil] at hproposed
      exact congrArg (fun proposed => (h.delegations : Multiset ChangeClusterConfig) + h.sent + proposed)
        (add_right_cancel hproposed)
  | wake n timer => obtain ⟨_, _, rfl⟩ := heff; exact hsame rfl rfl rfl
  | forward n => obtain ⟨_, _, rfl⟩ := heff; exact hsame rfl rfl rfl

/-! ## Runs -/

theorem mem_sum_changes {es : List HostEvent} {command : ChangeClusterConfig} :
    command ∈ (es.map HostEvent.changes).sum ↔ ∃ e ∈ es, command ∈ e.changes := by
  induction es with
  | nil => simp
  | cons e es ih => simp [ih]

/-- If the event delegates a change, this network leads and its own node is started. -/
def Delegates (self : Host) : HostEvent → Prop
  | .delegate _ => ∃ leader, self.network.leaderDelegate = .ok leader
  | _ => True

/-- **No configuration change is lost, doubled or made up.** In every run of a new network the changes that wait
    for their futures, those on their way to a node (one that has stopped among them), those that nodes have proposed
    to Raft and those that were dropped for want of a leader's node are together exactly the changes that the handled
    `ConnectNode`s ask for, each as often as it was asked for. If whenever a change is delegated this network leads and
    its own node is started, none was dropped. Whatever is proposed adds a single node that a `ConnectNode` named. -/
theorem proposals_accounted (sha256 : String → String) (now : DateTime) (id : NodeId) (info : NodeInfo)
    (ring : Ring) (es : List HostEvent) (h : Host)
    (hrun : Runs (Step sha256) (Host.new now id info ring) es h) :
    (h.delegations : Multiset ChangeClusterConfig) + h.sent + h.proposed +
        totalAlong (step sha256) dropped (Host.new now id info ring) es =
      (es.map HostEvent.changes).sum ∧
    (GuardedAlong (Step sha256) Delegates (Host.new now id info ring) es →
      totalAlong (step sha256) dropped (Host.new now id info ring) es = 0) ∧
    ∀ command ∈ h.proposed, ∃ connect, .message (.connectNode connect) ∈ es ∧
      command = ChangeClusterConfig.newToAdd [connect.id] := by
  have hnew : (Host.new now id info ring).changes = 0 := rfl
  have hbalance := stock_of_runs changes (fun _ e => e.changes) dropped (I := WellFormed)
    (fun h e h' hw hstep => Effect.wellFormed (show h.Effect sha256 e h' from step_cases hstep) hw)
    (fun _ _ _ hw hstep => changes_step hw hstep) hrun (wellFormed_new now id info ring)
  rw [hnew, zero_add, totalAlong_of_runs hrun] at hbalance
  refine ⟨hbalance, fun hguard => ?_, fun command hcommand => ?_⟩
  · refine totalAlong_eq_zero (C := Delegates) (fun h e hdelegates => ?_) hrun hguard
    cases e with
    | delegate n =>
        obtain ⟨leader, hleader⟩ := hdelegates
        unfold dropped
        cases h.delegations[n]? <;> simp [hleader]
    | _ => rfl
  · -- what is proposed was asked for
    have hmem : command ∈ (es.map HostEvent.changes).sum := by
      rw [← hbalance]
      exact Multiset.mem_add.2 (.inl (Multiset.mem_add.2 (.inr hcommand)))
    obtain ⟨e, he, hrequested⟩ := mem_sum_changes.1 hmem
    cases e with
    | message msg =>
        cases msg with
        | connectNode connect => exact ⟨connect, he, Multiset.mem_singleton.1 hrequested⟩
        | _ => cases hrequested
    | _ => cases hrequested

/-- A leader that adds node 2: the change is delegated, delivered and proposed. -/
def sampleProposal : List HostEvent :=
  [.started, .message (.registerRaft ⟨0⟩),
    .message (.raftMetrics 1 { nonVoterMetrics with state := .leader, currentLeader := some 1 }),
    .message (.connectNode { id := 2, info := sampleInfo }), .delegate 0, .deliver 0]

theorem proposals_accounted_sample :
    ((sampleRun sampleProposal).delegations : Multiset ChangeClusterConfig) + (sampleRun sampleProposal).sent +
        (sampleRun sampleProposal).proposed +
        totalAlong (step fun _ => "") dropped sampleNew sampleProposal =
      (sampleProposal.map HostEvent.changes).sum ∧
    (sampleRun sampleProposal).proposed = {ChangeClusterConfig.newToAdd [2]} :=
  ⟨(proposals_accounted (fun _ => "") 0 1 sampleInfo (Ring.new 10) sampleProposal _ (runs_sampleRun rfl)).1, rfl⟩

end Host

end RaftScaffold
