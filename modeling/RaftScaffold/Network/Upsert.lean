import RaftScaffold.Network.Actors
import RaftScaffold.Network.RoleHistory

set_option autoImplicit false

/-! # Connecting a node again

Peers retry `ConnectNode`, so handling it must be an idempotent upsert: it sets the info of one entry,
touches no other node and nothing of the network itself, and has nothing left to do the second time.
Everything it changes is changed when the message is accepted (`Host.connected`); the delegation to the
leader that follows, and whatever comes of it, leaves the network alone (`Host.Effect.background`). -/

namespace RaftScaffold

open Transition

/-! ## Frames -/

/-- `network'` is `network` but for the entry and the standing of node `id`. -/
structure Network.SameExcept (id : NodeId) (network network' : Network) : Prop where
  nodes : ∀ k, k ≠ id → network'.nodes[k]? = network.nodes[k]?
  connected : ∀ k, k ≠ id → (k ∈ network'.state.connectedNodes ↔ k ∈ network.state.connectedNodes)
  isolated : ∀ k, k ≠ id → (k ∈ network'.state.isolatedNodes ↔ k ∈ network.state.isolatedNodes)
  id : network'.id = network.id
  info : network'.info = network.info
  raft : network'.raft = network.raft
  ring : network'.ring = network.ring
  server : network'.server = network.server
  lifecycle : network.SameLifecycle network'

/-- Is this an event of the futures and actors that go on between the network's messages? -/
def HostEvent.IsBackground : HostEvent → Prop
  | .delegate _ => True
  | .deliver _ => True
  | .node _ _ => True
  | .wake _ _ => True
  | .forward _ => True
  | _ => False

namespace Host

theorem registered_sameExcept (h : Host) (id : NodeId) (info : NodeInfo) :
    h.network.SameExcept id (h.registered id info).network where
  nodes := fun _ hk => registered_lookup_ne h info hk
  connected := by
    intro k hk
    rw [registered_state, NetworkState.mem_connectedNodes_restoreNode]
    exact ⟨fun hmem => hmem.resolve_right fun hown => hk hown.1, .inl⟩
  isolated := by
    intro k hk
    rw [registered_state, NetworkState.mem_isolatedNodes_restoreNode]
    exact ⟨fun hmem => hmem.2, fun hmem => ⟨hk, hmem⟩⟩
  id := rfl
  info := rfl
  raft := rfl
  ring := rfl
  server := rfl
  lifecycle := registered_sameLifecycle h id info

theorem connected_sameExcept (h : Host) (command : ConnectNode) :
    h.network.SameExcept command.id (h.connected command).network := by
  unfold connected
  split
  · exact ⟨fun _ _ => rfl, fun _ _ => Iff.rfl, fun _ _ => Iff.rfl, rfl, rfl, rfl, rfl, rfl, rfl, rfl, rfl⟩
  · exact registered_sameExcept h command.id command.info

/-- The futures and actors that go on leave the network alone. -/
theorem Effect.background {sha256 : String → String} {h h' : Host} {e : HostEvent}
    (heff : h.Effect sha256 e h') (he : e.IsBackground) : h'.network = h.network := by
  cases e with
  | delegate n =>
      obtain ⟨delegations, rfl | ⟨leader, command, rfl⟩⟩ := heff
      · rfl
      · rfl
  | deliver n =>
      obtain ⟨_, _, _, _, _, _, _, rfl⟩ := heff
      rfl
  | node addr event =>
      obtain ⟨_, _, _, _, _, rfl⟩ := heff
      rfl
  | wake n timer =>
      obtain ⟨_, _, rfl⟩ := heff
      rfl
  | forward n =>
      obtain ⟨_, _, rfl⟩ := heff
      rfl
  | _ => exact he.elim

theorem network_of_background {sha256 : String → String} {h h' : Host} {es : List HostEvent}
    (hrun : Runs (Step sha256) h es h') (hes : ∀ e ∈ es, e.IsBackground) :
    h'.network = h.network := by
  refine hrun.invariant_of_forall (I := fun h' => h'.network = h.network) ?_ hes rfl
  intro h₁ e h₂ he hsame hstep
  exact ((step_cases hstep).background he).trans hsame

/-! ## Handling `ConnectNode` -/

/-- Every network accepts a `ConnectNode`. -/
theorem step_connectNode (sha256 : String → String) (h : Host) (command : ConnectNode) :
    ∃ h', Step sha256 h (.message (.connectNode command)) h' ∧
      h'.network = (h.connected command).network ∧ h'.actors = (h.connected command).actors := by
  refine ⟨{ h.connected command with
    delegations :=
      (h.connected command).delegations ++ [ChangeClusterConfig.newToAdd [command.id]] }, ?_, rfl, rfl⟩
  show orPanic (h.handle (.connectNode command)) = _
  rw [handle_connectNode]
  rfl

/-- A node that has the requested info is left as it is. -/
theorem connected_of_current {h : Host} {command : ConnectNode}
    (hcurrent : h.network.nodes[command.id]?.bind NodeRef.info = some command.info) :
    h.connected command = h := if_pos hcurrent

/-- **`ConnectNode` is an idempotent upsert.** Whatever the state of the network and the branch taken,
    it is accepted and leaves an entry with the requested info, every other entry and every other node's
    standing as they were, and the network's own data, lifecycle and metrics untouched. The network
    stays so through the delegation to the leader and anything that its actors do meanwhile, and
    handling the same `ConnectNode` once more changes nothing in it and starts no actor. -/
theorem connectNode_upserts (sha256 : String → String) (h : Host) (command : ConnectNode) :
    ∃ h₁, Step sha256 h (.message (.connectNode command)) h₁ ∧
      (∃ nodeRef, h₁.network.nodes[command.id]? = some nodeRef ∧ nodeRef.info = some command.info) ∧
      h.network.SameExcept command.id h₁.network ∧
      ∀ es h₂, (∀ e ∈ es, e.IsBackground) → Runs (Step sha256) h₁ es h₂ →
        h₂.network = h₁.network ∧
        ∃ h₃, Step sha256 h₂ (.message (.connectNode command)) h₃ ∧
          h₃.network = h₂.network ∧ h₃.actors = h₂.actors := by
  obtain ⟨h₁, hstep, hnetwork₁, -⟩ := step_connectNode sha256 h command
  have hinfo := connected_lookup_info h command
  have hsame := connected_sameExcept h command
  rw [← hnetwork₁] at hinfo hsame
  refine ⟨h₁, hstep, Option.bind_eq_some_iff.1 hinfo, hsame, fun es h₂ hes hrun => ?_⟩
  have hnetwork₂ := network_of_background hrun hes
  obtain ⟨h₃, hstep', hnetwork₃, hactors₃⟩ := step_connectNode sha256 h₂ command
  -- the entry has the requested info by now
  have hcurrent : h₂.connected command = h₂ := by
    refine connected_of_current ?_
    rw [hnetwork₂]
    exact hinfo
  rw [hcurrent] at hnetwork₃ hactors₃
  exact ⟨hnetwork₂, h₃, hstep', hnetwork₃, hactors₃⟩

end Host

end RaftScaffold
