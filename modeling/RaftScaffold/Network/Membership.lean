import RaftScaffold.Network.Steps

set_option autoImplicit false

/-! # The membership sets and the node table

The ids in `connected_nodes` and `isolated_nodes` are meant to be keys of the node table. Every handler that adds
an id to a set adds it for a key of the table, but `Handler<DisconnectNode>` removes the key and leaves the
sets as they are. So the sets mention only registered nodes along a run exactly as long as every
`DisconnectNode` that is handled finds its node in neither set (`Host.membersKnown_iff`). -/

namespace RaftScaffold

open Transition

namespace NetworkState

/-- The node is in one of the two sets. -/
def HasMember (s : NetworkState) (id : NodeId) : Prop :=
  id ∈ s.connectedNodes ∨ id ∈ s.isolatedNodes

theorem hasMember_isolateNode {s : NetworkState} {id k : NodeId} (h : (s.isolateNode id).HasMember k) :
    k = id ∨ s.HasMember k := by
  rcases h with hconn | hisol
  · exact .inr (.inl ((mem_connectedNodes_isolateNode s id k).1 hconn).1)
  · rcases (mem_isolatedNodes_isolateNode s id k).1 hisol with hk | hk
    · exact .inl hk
    · exact .inr (.inr hk)

/-- Restoring a node adds no node to the union of the two sets. -/
theorem hasMember_restoreNode {s : NetworkState} {id k : NodeId} (h : (s.restoreNode id).HasMember k) :
    s.HasMember k := by
  rcases h with hconn | hisol
  · rcases (mem_connectedNodes_restoreNode s id k).1 hconn with hk | ⟨rfl, hk⟩
    · exact .inl hk
    · exact .inr hk
  · exact .inr ((mem_isolatedNodes_restoreNode s id k).1 hisol).2

end NetworkState

namespace Host

/-- Every id in one of the two membership sets is a key of the node table. -/
def MembersKnown (h : Host) : Prop :=
  ∀ id, h.network.state.HasMember id → id ∈ h.network.nodes

/-- `DisconnectNode` is handled only for a node that is in neither set. -/
def DisconnectsNoMember (h : Host) : HostEvent → Prop
  | .message (.disconnectNode command) => ¬ h.network.state.HasMember command.id
  | _ => True

theorem MembersKnown.handleNodeStatusChange {h : Host} (hm : MembersKnown h)
    (msg : HandleNodeStatusChange) :
    MembersKnown { h with network := h.network.handleNodeStatusChange msg } := by
  unfold Network.handleNodeStatusChange
  split
  · next hmem =>
      have hisolate : MembersKnown { h with network := h.network.isolateNode msg.id } := by
        intro k hk
        rcases NetworkState.hasMember_isolateNode hk with rfl | hk
        · exact hmem
        · exact hm k hk
      cases msg.status with
      | initialized => exact hisolate
      | weaklyConnected => exact hisolate
      | connected => exact fun k hk => hm k (NetworkState.hasMember_restoreNode hk)
      | failure attempts => exact hm
      | disconnected => exact hisolate
  · exact hm

/-- Everything but a `DisconnectNode` keeps the property. -/
theorem MembersKnown.effect {sha256 : String → String} {h h' : Host} {e : HostEvent}
    (hm : MembersKnown h) (heff : h.Effect sha256 e h')
    (he : ∀ command, e ≠ .message (.disconnectNode command)) : MembersKnown h' := by
  refine heff.network_rule (P := fun network => ∀ id, network.state.HasMember id → id ∈ network.nodes)
    hm ?_ ?_ (fun _ _ => hm) (fun _ => hm) ?_ ?_ ?_
  · intro network id nodeRef hm k hk
    exact Std.ExtTreeMap.mem_insert.2 (.inr (hm k hk))
  · intro network id hm k hk
    exact hm k (NetworkState.hasMember_restoreNode hk)
  · intro now metrics state _ hstate k hk
    obtain ⟨hconn, hisol, -⟩ := NetworkState.advanceStateOnRaftStatus_frame hstate
    refine hm k ?_
    unfold NetworkState.HasMember at hk ⊢
    rwa [← hconn, ← hisol]
  · intro msg _
    exact hm.handleNodeStatusChange msg
  · intro command hdisconnect
    exact absurd hdisconnect (he command)

/-- Removing a key keeps the property exactly when the sets do not mention it. -/
theorem MembersKnown.handleDisconnectNode_iff {h : Host} (hm : MembersKnown h)
    (command : DisconnectNode) :
    MembersKnown { h with network := h.network.handleDisconnectNode command } ↔
      ¬ h.network.state.HasMember command.id := by
  constructor
  · intro hm' hk
    have := hm' command.id hk
    simp [Network.handleDisconnectNode] at this
  · intro hno k hk
    refine Std.ExtTreeMap.mem_erase.2 ⟨?_, hm k hk⟩
    simp only [ne_eq, Std.LawfulEqCmp.compare_eq_iff_eq]
    rintro rfl
    exact hno hk

/-- The step lemma: only a `DisconnectNode` for a member of a set breaks the property. -/
theorem membersKnown_step {sha256 : String → String} {h h' : Host} {e : HostEvent}
    (hm : MembersKnown h) (hstep : Step sha256 h e h') :
    MembersKnown h' ↔ DisconnectsNoMember h e := by
  have heff := step_cases hstep
  by_cases hdisconnect : ∃ command, e = .message (.disconnectNode command)
  · obtain ⟨command, rfl⟩ := hdisconnect
    rw [heff]
    exact hm.handleDisconnectNode_iff command
  · refine iff_of_true (hm.effect heff fun command heq => hdisconnect ⟨command, heq⟩) ?_
    unfold DisconnectsNoMember
    split
    · next command => exact absurd ⟨command, rfl⟩ hdisconnect
    · trivial

/-- **When the sets mention only registered nodes.** Along any run of a new network — configured, started,
    and handling any messages — every id in the two sets is a key of the table in every state reached
    if and only if every `DisconnectNode` that is handled is for a node in neither set. -/
theorem membersKnown_iff (sha256 : String → String) (now : DateTime) (id : NodeId) (info : NodeInfo)
    (ring : Ring) (es : List HostEvent) :
    HoldsAlong (Step sha256) MembersKnown (Host.new now id info ring) es ↔
      GuardedAlong (Step sha256) DisconnectsNoMember (Host.new now id info ring) es := by
  refine holdsAlong_iff_guardedAlong (fun h e h' hm hstep => membersKnown_step hm hstep) _ _ ?_
  rintro k (hconn | hisol)
  · exact absurd hconn (Finset.notMem_empty k)
  · exact absurd hisol (Finset.notMem_empty k)

/-- A node that is reported disconnected and then removed stays in the isolated set. -/
theorem membersKnown_fails :
    ¬ ∀ sha256 now id info ring es h,
      Runs (Step sha256) (Host.new now id info ring) es h → MembersKnown h := by
  intro hall
  let es : List HostEvent :=
    [.started, .message (.connectNode { id := 2, info := sampleInfo }),
      .message (.handleNodeStatusChange { id := 2, status := .disconnected }),
      .message (.disconnectNode { id := 2 })]
  have hknown := hall (fun _ => "") 0 1 sampleInfo (Ring.new 10) es (sampleRun es) (runs_sampleRun rfl) 2
  have hisolated : (2 : NodeId) ∈ (sampleRun es).network.state.isolatedNodes := by decide
  have hremoved : (2 : NodeId) ∉ (sampleRun es).network.nodes := by decide
  exact hremoved (hknown (.inr hisolated))

end Host

end RaftScaffold
