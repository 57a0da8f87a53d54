import RaftScaffold.Network.Started
import RaftScaffold.Network.Upsert

set_option autoImplicit false

/-! # The fast path of `ConnectNode`

A `ConnectNode` that brings no new info is finished without a call of `register_node`. In a started network
this call would leave the table as it is, since the entry has its actor already, or is the own one and waits
for Raft (`Host.registered_of_current`). But it would also restore the node's standing. So the fast path agrees
with the registration it skips exactly for a node that is not isolated (`Host.fastPathAgrees_iff`), and a node
that joins again with the info it had stays isolated. -/

namespace RaftScaffold

open Transition

namespace Host

/-- What the fast path promises for a `ConnectNode`: handling it leaves the table and the membership sets that
    `register_node` would leave, and the node is not isolated. -/
def FastPathAgrees (sha256 : String → String) (h : Host) (command : ConnectNode) : Prop :=
  ∃ handled registered, Step sha256 h (.message (.connectNode command)) handled ∧
    h.registerNode command.id command.info = .ok registered ∧
    handled.network.nodes = registered.network.nodes ∧
    handled.network.state.connectedNodes = registered.network.state.connectedNodes ∧
    handled.network.state.isolatedNodes = registered.network.state.isolatedNodes ∧
    command.id ∉ handled.network.state.isolatedNodes

/-- In a started network, registering a node with the info it has starts no actor. -/
theorem newProximity_of_current {h : Host} (hc : Complete h) {id : NodeId} {info : NodeInfo}
    (hcurrent : h.network.nodes[id]?.bind NodeRef.info = some info) : h.newProximity id info = none := by
  obtain ⟨nodeRef, hlookup, hinfo⟩ := Option.bind_eq_some_iff.1 hcurrent
  have hentry : h.entryFor id info = nodeRef := by simp [entryFor, hlookup]
  unfold newProximity
  simp only [hentry, hinfo, true_and]
  by_cases hwaits : id = h.network.id ∧ h.network.raft = none
  · -- the own node, before Raft is registered
    simp [Network.determineProximity, hwaits.1, hwaits.2]
  · have haddr : nodeRef.addr.isSome := by
      refine hc id nodeRef hlookup fun hown => ?_
      rw [Option.isSome_iff_ne_none]
      exact fun hnone => hwaits ⟨hown, hnone⟩
    rw [if_pos haddr]

/-- So all it does is to restore the node's standing. -/
theorem registered_of_current {h : Host} (hc : Complete h) {id : NodeId} {info : NodeInfo}
    (hcurrent : h.network.nodes[id]?.bind NodeRef.info = some info) :
    h.registered id info = { h with network := h.network.restoreNode id } := by
  have hnone := newProximity_of_current hc hcurrent
  obtain ⟨nodeRef, hlookup, hinfo⟩ := Option.bind_eq_some_iff.1 hcurrent
  have hentry : h.registeredRef id info = nodeRef := by
    simp [registeredRef, entryFor, hlookup, hnone, ← hinfo]
  simp [registered, hentry, NodeTable.insert_self hlookup, newActors, hnone, Network.restoreNode]

/-- A node that joins with another info than it had is not isolated afterwards. -/
theorem connected_not_isolated {h : Host} {command : ConnectNode}
    (hchanged : h.network.nodes[command.id]?.bind NodeRef.info ≠ some command.info) :
    command.id ∉ (h.connected command).network.state.isolatedNodes := by
  rw [connected, if_neg hchanged, registered_state, NetworkState.mem_isolatedNodes_restoreNode]
  exact fun hisolated => hisolated.1 rfl

/-- **When the fast path agrees with the registration it skips.** In every state a started network reaches, a
    `ConnectNode` with the info that is stored leaves what `register_node` would leave, and the node in no
    isolation, if and only if the node was not isolated before. With any other info the node is never
    isolated afterwards. -/
theorem fastPathAgrees_iff (sha256 : String → String) (h : Host) (hs : StartedReachable sha256 h)
    (command : ConnectNode) :
    (h.network.nodes[command.id]?.bind NodeRef.info = some command.info →
      (FastPathAgrees sha256 h command ↔ command.id ∉ h.network.state.isolatedNodes)) ∧
    (h.network.nodes[command.id]?.bind NodeRef.info ≠ some command.info →
      ∃ handled, Step sha256 h (.message (.connectNode command)) handled ∧
        command.id ∉ handled.network.state.isolatedNodes) := by
  obtain ⟨handled, hstep, hnetwork, -⟩ := step_connectNode sha256 h command
  refine ⟨fun hcurrent => ?_, fun hchanged => ⟨handled, hstep, ?_⟩⟩
  · rw [connected_of_current hcurrent] at hnetwork
    have hregistered := registered_of_current hs.complete hcurrent
    constructor
    · rintro ⟨handled', -, hstep', -, -, -, -, hnotIsolated⟩
      obtain rfl := Except.ok.inj (hstep.symm.trans hstep')
      rwa [hnetwork] at hnotIsolated
    · intro hnotIsolated
      have hrestore : h.network.state.restoreNode command.id = h.network.state := by
        rw [NetworkState.restoreNode, if_neg (by simpa using hnotIsolated)]
      refine ⟨handled, _, hstep, registerNode_eq h _ _, ?_⟩
      rw [hregistered, hnetwork]
      simp only [Network.restoreNode, hrestore]
      exact ⟨trivial, trivial, trivial, hnotIsolated⟩
  · rw [hnetwork]
    exact connected_not_isolated hchanged

/-- Node 2 joined, and is reported as `Disconnected`. -/
def sampleIsolated : Host :=
  sampleRun [.started, .message (.connectNode { id := 2, info := sampleInfo }),
    .message (.handleNodeStatusChange { id := 2, status := .disconnected })]

theorem sampleJoined_startedReachable : StartedReachable (fun _ => "") sampleJoined :=
  ⟨_, [.message (.connectNode { id := 2, info := sampleInfo })],
    ⟨0, 1, sampleInfo, Ring.new 10, [], runs_sampleRun rfl⟩, by decide,
    runs_finalState (s := sampleRun [.started]) rfl⟩

/-- A node that was never isolated may join again. -/
theorem fastPathAgrees_joined :
    FastPathAgrees (fun _ => "") sampleJoined { id := 2, info := sampleInfo } :=
  ((fastPathAgrees_iff _ _ sampleJoined_startedReachable { id := 2, info := sampleInfo }).1
    (by decide)).2 (by decide)

/-- An isolated one joins again in vain. -/
theorem fastPathAgrees_fails :
    ¬ ∀ sha256 h, StartedReachable sha256 h → ∀ command : ConnectNode,
      h.network.nodes[command.id]?.bind NodeRef.info = some command.info →
      FastPathAgrees sha256 h command := by
  intro hall
  have hs : StartedReachable (fun _ => "") sampleIsolated :=
    ⟨_, [.message (.connectNode { id := 2, info := sampleInfo }),
        .message (.handleNodeStatusChange { id := 2, status := .disconnected })],
      ⟨0, 1, sampleInfo, Ring.new 10, [], runs_sampleRun rfl⟩, by decide,
      runs_finalState (s := sampleRun [.started]) rfl⟩
  obtain ⟨handled, -, hstep, -, -, -, -, hnotIsolated⟩ :=
    hall _ _ hs { id := 2, info := sampleInfo } (by decide)
  obtain rfl := Except.ok.inj hstep
  exact absurd hnotIsolated (by decide)

end Host

end RaftScaffold
