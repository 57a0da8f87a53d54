import RaftScaffold.Network.Steps

set_option autoImplicit false

/-! # The network's own node

`Network::new` puts an entry for the own node into the table, and two handlers rely on it:
`RegisterRaft` panics without it, and a network that the metrics name as leader looks itself up in the
table. Every handler keeps the entry except `DisconnectNode`, which removes whatever id it is given. So
the entry is there along a run exactly as long as no `DisconnectNode` names the network itself
(`Host.ownNodeKnown_iff`). -/

namespace RaftScaffold

open Transition

namespace Host

/-! ## What depends on the own entry -/

/-- The network knows its own node: its entry is in the table, `RegisterRaft` does not panic, and if the
    metrics name this network as leader then `leader_ref` finds the entry. -/
structure OwnNodeKnown (h : Host) : Prop where
  registered : h.network.id ∈ h.network.nodes
  registerRaft : ∀ raft p, h.handle (.registerRaft raft) ≠ .error p
  leader : ∀ metrics, h.network.metrics = some metrics → metrics.currentLeader = some h.network.id →
    ∃ nodeRef, h.network.nodes[h.network.id]? = some nodeRef ∧ h.network.leaderRef = some nodeRef

/-- The event removes no node, or another one. -/
def KeepsOwnNode (h : Host) : HostEvent → Prop
  | .message (.disconnectNode command) => command.id ≠ h.network.id
  | _ => True

theorem handle_registerRaft_ne_error {h : Host} {nodeRef : NodeRef}
    (hlookup : h.network.nodes[h.network.id]? = some nodeRef) (raft : RaftAddr) (p : Panic) :
    h.handle (.registerRaft raft) ≠ .error p := by
  simp only [handle, handleRegisterRaft, hlookup]
  cases hinfo : nodeRef.info with
  | none => simp [Except.map]
  | some info =>
      cases haddr : nodeRef.addr with
      | none =>
          simp [hinfo, haddr, registerRaftAndCreateLocalNode, registerNode_eq, bind, Except.bind,
            Except.map]
      | some addr =>
          simp only [hinfo, haddr, registerRaft, expect_some, bind, Except.bind]
          split <;> simp [Except.map]

theorem ownNodeKnown_of_mem {h : Host} (hmem : h.network.id ∈ h.network.nodes) : OwnNodeKnown h := by
  obtain ⟨nodeRef, hlookup⟩ := (NodeTable.mem_iff _ _).1 hmem
  refine ⟨hmem, handle_registerRaft_ne_error hlookup, fun metrics hmetrics hleader => ?_⟩
  refine ⟨nodeRef, hlookup, ?_⟩
  rw [Network.leaderRef, hmetrics, Option.bind_some, hleader, Option.bind_some, hlookup]

/-- The step lemma: only a `DisconnectNode` for the network itself loses the own node. -/
theorem ownNodeKnown_step {sha256 : String → String} {h h' : Host} {e : HostEvent}
    (hown : OwnNodeKnown h) (hstep : Step sha256 h e h') : OwnNodeKnown h' ↔ KeepsOwnNode h e := by
  have heff := step_cases hstep
  have hkeep : (∀ command, e = .message (.disconnectNode command) → command.id ≠ h.network.id) →
      OwnNodeKnown h' := by
    intro he
    refine ownNodeKnown_of_mem ?_
    rw [heff.network_id]
    exact heff.mem_nodes hown.registered he
  by_cases hdisconnect : ∃ command, e = .message (.disconnectNode command)
  · obtain ⟨command, rfl⟩ := hdisconnect
    constructor
    · intro hown' hid
      have hmem := hown'.registered
      rw [heff] at hmem
      simp [Network.handleDisconnectNode, hid] at hmem
    · intro hne
      refine hkeep fun command' heq => ?_
      cases heq
      exact hne
  · refine iff_of_true (hkeep fun command heq => absurd ⟨command, heq⟩ hdisconnect) ?_
    unfold KeepsOwnNode
    split
    · next command => exact absurd ⟨command, rfl⟩ hdisconnect
    · trivial

/-- **When the network keeps its own node.** Along any run of a new network — configured, started, and
    handling any messages — the network knows its own node in every state reached if and only if no
    `DisconnectNode` that is handled names the network itself. -/
theorem ownNodeKnown_iff (sha256 : String → String) (now : DateTime) (id : NodeId) (info : NodeInfo)
    (ring : Ring) (es : List HostEvent) :
    HoldsAlong (Step sha256) OwnNodeKnown (Host.new now id info ring) es ↔
      GuardedAlong (Step sha256) KeepsOwnNode (Host.new now id info ring) es := by
  refine holdsAlong_iff_guardedAlong (fun h e h' hown hstep => ownNodeKnown_step hown hstep) _ _ ?_
  refine ownNodeKnown_of_mem ?_
  simp [Host.new, Network.new]

/-- A network that is told to disconnect itself panics on the next `RegisterRaft`. -/
theorem ownNodeKnown_fails :
    ¬ ∀ sha256 now id info ring es h,
      Runs (Step sha256) (Host.new now id info ring) es h → OwnNodeKnown h := by
  intro hall
  let es : List HostEvent := [.started, .message (.disconnectNode { id := 1 })]
  have hown := hall (fun _ => "") 0 1 sampleInfo (Ring.new 10) es (sampleRun es) (runs_sampleRun rfl)
  exact hown.registerRaft ⟨0⟩ _ rfl

end Host

end RaftScaffold
