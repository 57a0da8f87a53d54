import RaftScaffold.Network.NodeTable
import RaftScaffold.Transition.PerKey

set_option autoImplicit false

/-! # The standing of a node

What the two membership sets are for: each node is *connected*, *isolated* or neither. `Standing` says
this as one value per node, so a contradictory standing cannot be written down; `isolateNode` and
`restoreNode` refine the two moves on it (`standing_isolateNode`, `standing_restoreNode`), as long as
the sets are disjoint, which they always are (`Host.Reachable.disjoint`).

A message about one node reads and writes the table entry and the standing of this node only. So a
running network is a product of per-node components (`Host.perKey`), and how the messages about
different nodes interleave cannot be seen in the table or the sets. -/

namespace RaftScaffold

open Transition

/-! ## Standings -/

inductive Standing where
  | unknown
  | connected
  | isolated
  deriving DecidableEq, Repr

namespace Standing

def isolate (_ : Standing) : Standing := .isolated

/-- Only an isolated node is restored. -/
def restore : Standing → Standing
  | .isolated => .connected
  | standing => standing

/-- The effect of a status report. -/
def report (standing : Standing) : NodeStatus → Standing
  | .initialized => standing.isolate
  | .weaklyConnected => standing.isolate
  | .connected => standing.restore
  | .failure _ => standing
  | .disconnected => standing.isolate

end Standing

namespace NetworkState

def standing (s : NetworkState) (id : NodeId) : Standing :=
  if id ∈ s.isolatedNodes then .isolated
  else if id ∈ s.connectedNodes then .connected
  else .unknown

/-- No node is both connected and isolated. -/
def Consistent (s : NetworkState) : Prop := Disjoint s.connectedNodes s.isolatedNodes

theorem mem_isolatedNodes_iff (s : NetworkState) (id : NodeId) :
    id ∈ s.isolatedNodes ↔ s.standing id = .isolated := by
  unfold standing
  split
  · simp [*]
  · split <;> simp [*]

theorem mem_connectedNodes_iff {s : NetworkState} (hs : s.Consistent) (id : NodeId) :
    id ∈ s.connectedNodes ↔ s.standing id = .connected := by
  unfold standing
  split
  · next hisol => simp [Finset.disjoint_right.1 hs hisol]
  · split <;> simp [*]

theorem Consistent.isolateNode {s : NetworkState} (hs : s.Consistent) (id : NodeId) :
    (s.isolateNode id).Consistent := by
  refine Finset.disjoint_left.2 fun k hconn hisol => ?_
  obtain ⟨hk, hid⟩ := (mem_connectedNodes_isolateNode s id k).1 hconn
  rcases (mem_isolatedNodes_isolateNode s id k).1 hisol with rfl | hk'
  · exact Finset.disjoint_left.1 hs hk (hid rfl)
  · exact Finset.disjoint_left.1 hs hk hk'

theorem Consistent.restoreNode {s : NetworkState} (hs : s.Consistent) (id : NodeId) :
    (s.restoreNode id).Consistent := by
  refine Finset.disjoint_left.2 fun k hconn hisol => ?_
  obtain ⟨hne, hk⟩ := (mem_isolatedNodes_restoreNode s id k).1 hisol
  rcases (mem_connectedNodes_restoreNode s id k).1 hconn with hk' | ⟨rfl, -⟩
  · exact Finset.disjoint_left.1 hs hk' hk
  · exact hne rfl

theorem standing_isolateNode {s : NetworkState} (hs : s.Consistent) (id k : NodeId) :
    (s.isolateNode id).standing k = if k = id then (s.standing k).isolate else s.standing k := by
  -- an isolated node is left alone, and needs no removal since the sets are disjoint
  have hconn : k ∈ (s.isolateNode id).connectedNodes ↔ k ≠ id ∧ k ∈ s.connectedNodes := by
    rw [mem_connectedNodes_isolateNode]
    constructor
    · rintro ⟨hk, hid⟩
      exact ⟨fun he => Finset.disjoint_left.1 hs hk (by rw [he]; exact hid he), hk⟩
    · rintro ⟨hne, hk⟩
      exact ⟨hk, fun he => absurd he hne⟩
  by_cases hk : k = id
  · simp [standing, hk, Standing.isolate]
  · simp [standing, hconn, hk]

theorem standing_restoreNode (s : NetworkState) (id k : NodeId) :
    (s.restoreNode id).standing k = if k = id then (s.standing k).restore else s.standing k := by
  by_cases hk : k = id
  · subst hk
    by_cases hisol : k ∈ s.isolatedNodes
    · simp [standing, mem_connectedNodes_restoreNode, hisol, Standing.restore]
    · by_cases hconn : k ∈ s.connectedNodes <;>
        simp [standing, mem_connectedNodes_restoreNode, hisol, hconn, Standing.restore]
  · simp [standing, mem_connectedNodes_restoreNode, hk]

end NetworkState

namespace Network

theorem handleNodeStatusChange_consistent {network : Network} (hs : network.state.Consistent)
    (msg : HandleNodeStatusChange) : (network.handleNodeStatusChange msg).state.Consistent := by
  unfold handleNodeStatusChange
  split
  · cases msg.status with
    | initialized => exact hs.isolateNode _
    | weaklyConnected => exact hs.isolateNode _
    | connected => exact hs.restoreNode _
    | failure attempts => exact hs
    | disconnected => exact hs.isolateNode _
  · exact hs

/-- A status report moves the standing of a registered node, and nothing else. -/
theorem standing_handleNodeStatusChange {network : Network} (hs : network.state.Consistent)
    (msg : HandleNodeStatusChange) (k : NodeId) :
    (network.handleNodeStatusChange msg).state.standing k =
      if k = msg.id ∧ k ∈ network.nodes then (network.state.standing k).report msg.status
      else network.state.standing k := by
  have hisolate := NetworkState.standing_isolateNode hs msg.id k
  have hrestore := NetworkState.standing_restoreNode network.state msg.id k
  unfold handleNodeStatusChange
  by_cases hmem : msg.id ∈ network.nodes
  · rw [if_pos hmem]
    by_cases hk : k = msg.id
    · subst hk
      rw [if_pos ⟨rfl, hmem⟩]
      rw [if_pos rfl] at hisolate hrestore
      cases msg.status <;> first | exact hisolate | exact hrestore | rfl
    · rw [if_neg fun h => hk h.1]
      rw [if_neg hk] at hisolate hrestore
      cases msg.status <;> first | exact hisolate | exact hrestore | rfl
  · rw [if_neg hmem, if_neg]
    rintro ⟨rfl, hk⟩
    exact hmem hk

end Network

namespace Host

/-! ## The sets are always disjoint -/

theorem Effect.consistent {sha256 : String → String} {h h' : Host} {e : HostEvent}
    (heff : h.Effect sha256 e h') (hs : h.network.state.Consistent) :
    h'.network.state.Consistent := by
  refine heff.network_rule (P := fun network => network.state.Consistent) hs (fun _ _ _ hs => hs)
    (fun _ _ hs => hs.restoreNode _) (fun _ _ => hs) (fun _ => hs) ?_ ?_ (fun _ _ => hs)
  · intro now metrics state _ hstate
    obtain ⟨hconn, hisol, -⟩ := NetworkState.advanceStateOnRaftStatus_frame hstate
    unfold NetworkState.Consistent at hs ⊢
    rwa [hconn, hisol]
  · intro msg _
    exact Network.handleNodeStatusChange_consistent hs msg

theorem Reachable.disjoint {sha256 : String → String} {h : Host} (hr : Reachable sha256 h) :
    h.network.state.Consistent := by
  obtain ⟨now, id, info, ring, es, hrun⟩ := hr
  exact hrun.invariant (I := fun h => h.network.state.Consistent)
    (fun _ _ _ hs hstep => (step_cases hstep).consistent hs) (Finset.disjoint_empty_left _)

/-! ## Status reports -/

/-- The effect of a status report on the two sets, through the standings. -/
theorem Reachable.mem_reported {sha256 : String → String} {h : Host} (hr : Reachable sha256 h)
    {id : NodeId} (hmem : id ∈ h.network.nodes) (status : NodeStatus) :
    let s' := (h.network.handleNodeStatusChange { id, status }).state
    (id ∈ s'.connectedNodes ↔ (h.network.state.standing id).report status = .connected) ∧
    (id ∈ s'.isolatedNodes ↔ (h.network.state.standing id).report status = .isolated) := by
  intro s'
  have hs' : s'.Consistent := Network.handleNodeStatusChange_consistent hr.disjoint _
  have hstanding : s'.standing id = (h.network.state.standing id).report status := by
    rw [Network.standing_handleNodeStatusChange hr.disjoint, if_pos ⟨rfl, hmem⟩]
  rw [NetworkState.mem_connectedNodes_iff hs', NetworkState.mem_isolatedNodes_iff, hstanding]
  exact ⟨Iff.rfl, Iff.rfl⟩

theorem Reachable.mem_reported_ne {sha256 : String → String} {h : Host} (hr : Reachable sha256 h)
    (msg : HandleNodeStatusChange) {k : NodeId} (hk : k ≠ msg.id) :
    let s' := (h.network.handleNodeStatusChange msg).state
    (k ∈ s'.connectedNodes ↔ k ∈ h.network.state.connectedNodes) ∧
    (k ∈ s'.isolatedNodes ↔ k ∈ h.network.state.isolatedNodes) := by
  intro s'
  have hs' : s'.Consistent := Network.handleNodeStatusChange_consistent hr.disjoint msg
  have hstanding : s'.standing k = h.network.state.standing k := by
    rw [Network.standing_handleNodeStatusChange hr.disjoint, if_neg fun hown => hk hown.1]
  simp only [NetworkState.mem_connectedNodes_iff hs', NetworkState.mem_connectedNodes_iff hr.disjoint,
    NetworkState.mem_isolatedNodes_iff, hstanding, and_self]

/-- **Where a status report leaves a node.** `Connected` takes a registered node out of the isolated set
    and into the connected one, except that it leaves a node of neither set where it is; `Initialized`,
    `WeaklyConnected` and `Disconnected` isolate it; `Failure` changes nothing; and no other node's
    standing moves. -/
theorem membership_reported (sha256 : String → String) (h : Host) (hr : Reachable sha256 h) (id : NodeId)
    (hmem : id ∈ h.network.nodes) (status : NodeStatus) :
    let s := h.network.state
    let s' := (h.network.handleNodeStatusChange { id, status }).state
    (status = .connected → id ∉ s'.isolatedNodes ∧
      (id ∈ s'.connectedNodes ↔ id ∈ s.connectedNodes ∨ id ∈ s.isolatedNodes)) ∧
    (status = .initialized ∨ status = .weaklyConnected ∨ status = .disconnected →
      id ∈ s'.isolatedNodes ∧ id ∉ s'.connectedNodes) ∧
    (∀ n, status = .failure n → (id ∈ s'.connectedNodes ↔ id ∈ s.connectedNodes) ∧
      (id ∈ s'.isolatedNodes ↔ id ∈ s.isolatedNodes)) ∧
    (∀ k, k ≠ id → (k ∈ s'.connectedNodes ↔ k ∈ s.connectedNodes) ∧
      (k ∈ s'.isolatedNodes ↔ k ∈ s.isolatedNodes)) := by
  intro s s'
  obtain ⟨hconn, hisol⟩ := hr.mem_reported hmem status
  refine ⟨?_, ?_, ?_, ?_⟩
  · rintro rfl
    rw [hconn, hisol, NetworkState.mem_connectedNodes_iff hr.disjoint,
      NetworkState.mem_isolatedNodes_iff]
    cases h.network.state.standing id <;> decide
  · intro hisolates
    rw [hconn, hisol]
    rcases hisolates with rfl | rfl | rfl <;> exact ⟨rfl, by simp [Standing.report, Standing.isolate]⟩
  · rintro n rfl
    rw [hconn, hisol, NetworkState.mem_connectedNodes_iff hr.disjoint,
      NetworkState.mem_isolatedNodes_iff]
    exact ⟨Iff.rfl, Iff.rfl⟩
  · intro k hk
    exact hr.mem_reported_ne _ hk

/-- Node 2 is removed before its first report is handled, and then joins again. -/
def sampleRejoined : Host :=
  sampleRun [.started, .message (.connectNode { id := 2, info := sampleInfo }),
    .message (.disconnectNode { id := 2 }),
    .message (.handleNodeStatusChange { id := 2, status := .weaklyConnected }),
    .message (.connectNode { id := 2, info := sampleInfo })]

theorem sampleRejoined_reachable : Reachable (fun _ => "") sampleRejoined :=
  ⟨0, 1, sampleInfo, Ring.new 10, _, runs_sampleRun rfl⟩

/-- An isolated node is restored. -/
theorem membership_reported_isolated :
    let h := sampleRun [.started, .message (.connectNode { id := 2, info := sampleInfo }),
      .message (.handleNodeStatusChange { id := 2, status := .disconnected })]
    let s' := (h.network.handleNodeStatusChange { id := 2, status := .connected }).state
    2 ∈ s'.connectedNodes ∧ 2 ∉ s'.isolatedNodes := by
  intro h s'
  have hr : Reachable (fun _ => "") h := ⟨0, 1, sampleInfo, Ring.new 10, _, runs_sampleRun rfl⟩
  have hreported := (membership_reported _ h hr 2 (by decide) .connected).1 rfl
  exact ⟨hreported.2.2 (.inr (by decide)), hreported.1⟩

/-- But a node that joined again after its first report was dropped stays out of both sets, although it is
    reported as connected. -/
theorem connected_of_reported_fails :
    ¬ ∀ sha256 h, Reachable sha256 h → ∀ id ∈ h.network.nodes,
      let s' := (h.network.handleNodeStatusChange { id, status := .connected }).state
      id ∈ s'.connectedNodes ∧ id ∉ s'.isolatedNodes := by
  intro hall
  have hconn := (hall _ _ sampleRejoined_reachable 2 (by decide)).1
  exact absurd hconn (by decide)

/-! ## The component of one node -/

/-- What the network holds about one node: its entry, its standing, whether its actor is started and, for
    the own node, whether a Raft actor is registered. -/
structure Component where
  entry : Option (NodeId × Option NodeInfo)
  standing : Standing
  running : Bool
  raft : Bool
  deriving DecidableEq, Repr

/-- The component of node `k` in a network with id `own`. -/
def component (own k : NodeId) (h : Host) : Component :=
  { entry := h.network.nodes[k]?.map fun nodeRef => (nodeRef.id, nodeRef.info)
    standing := h.network.state.standing k
    running := (h.network.getNode k).isSome
    raft := k = own && h.network.raft.isSome }

namespace Component

/-- Registration of the node `k`. -/
def register (c : Component) (own k : NodeId) (info : NodeInfo) : Component :=
  { c with
    entry := some ((c.entry.map Prod.fst).getD k, some info)
    standing := c.standing.restore
    running := c.running || k ≠ own || c.raft }

/-- What an event about the node `k` does to its component. -/
def step (own k : NodeId) (c : Component) : HostEvent → Component
  | .message (.registerRaft _) =>
      match c.entry with
      | some (_, some info) =>
          if c.running then { c with raft := true } else { c with raft := true }.register own k info
      | _ => { c with raft := true }
  | .message (.handleNodeStatusChange msg) =>
      if c.entry.isSome then { c with standing := c.standing.report msg.status } else c
  | .message (.connectNode command) =>
      if c.entry.bind Prod.snd = some command.info then c else c.register own k command.info
  | .message (.disconnectNode _) => { c with entry := none, running := false }
  | _ => c

end Component

theorem component_of_sameMembership {h h' : Host} (hsame : SameMembership h h') (own k : NodeId) :
    component own k h' = component own k h := by
  simp only [component, Network.getNode, NetworkState.standing, hsame.nodes, hsame.raft,
    hsame.connected, hsame.isolated]

theorem entryFor_addr (h : Host) (k : NodeId) (info : NodeInfo) :
    (h.entryFor k info).addr = h.network.getNode k := by
  unfold entryFor Network.getNode
  cases h.network.nodes[k]? <;> rfl

theorem entryFor_id (h : Host) (k : NodeId) (info : NodeInfo) :
    (h.entryFor k info).id = (h.network.nodes[k]?.map NodeRef.id).getD k := by
  unfold entryFor
  cases h.network.nodes[k]? <;> rfl

/-- When a registered node has its actor: always, but for the own node before Raft. -/
theorem registeredRef_addr_isSome (h : Host) (k : NodeId) (info : NodeInfo) :
    (h.registeredRef k info).addr.isSome =
      ((h.network.getNode k).isSome || k ≠ h.network.id ||
        (decide (k = h.network.id) && h.network.raft.isSome)) := by
  cases hprox : h.newProximity k info with
  | some proximity =>
      have haddr : (h.registeredRef k info).addr = some ⟨h.actors.length⟩ := by
        simp [registeredRef, hprox]
      rw [haddr]
      by_cases hown : k = h.network.id
      · simp [(newProximity_serves hprox).1 hown, hown]
      · simp [hown]
  | none =>
      have haddr : (h.registeredRef k info).addr = h.network.getNode k := by
        simp [registeredRef, hprox, entryFor_addr]
      rw [haddr]
      rcases newProximity_eq_none hprox with ⟨-, hsome⟩ | ⟨hown, hraft⟩
      · rw [entryFor_addr] at hsome
        simp [hsome]
      · simp [hown, hraft]

/-- Registering a node acts on its component only, and as `Component.register` says. -/
theorem component_registered (h : Host) (id : NodeId) (info : NodeInfo) (k : NodeId) :
    component h.network.id k (h.registered id info) =
      if k = id then (component h.network.id k h).register h.network.id k info
      else component h.network.id k h := by
  have hstanding := NetworkState.standing_restoreNode h.network.state id k
  by_cases hk : k = id
  · subst hk
    rw [if_pos rfl] at hstanding ⊢
    simp only [component, Component.register, registered_lookup, if_true, registered_state, hstanding,
      registered_raft, Network.getNode, Option.map_some, Option.bind_some, registeredRef_info,
      registeredRef_id, entryFor_id, registeredRef_addr_isSome, Option.map_map, Function.comp_def]
  · rw [if_neg hk] at hstanding ⊢
    simp only [component, registered_lookup, if_neg hk, registered_state, hstanding, registered_raft,
      Network.getNode]

/-! ## A running network is a product of components -/

/-- A step of a running network. -/
def RuntimeStep (sha256 : String → String) (h : Host) (e : HostEvent) (h' : Host) : Prop :=
  e.IsRuntime ∧ Step sha256 h e h'

theorem component_withRaft (h : Host) (raft : RaftAddr) (k : NodeId) :
    component h.network.id k (h.withRaft raft) =
      if k = h.network.id then { component h.network.id k h with raft := true }
      else component h.network.id k h := by
  by_cases hk : k = h.network.id <;> simp [component, withRaft, Network.getNode, hk]

/-- What `RegisterRaft` does to the components. -/
theorem component_registersRaft {h h' : Host} {raft : RaftAddr} (hw : WellFormed h)
    (heff : h.RegistersRaft raft h') (k : NodeId) :
    component h.network.id k h' =
      if k = h.network.id then
        (component h.network.id k h).step h.network.id k (.message (.registerRaft raft))
      else component h.network.id k h := by
  have hraft := component_withRaft h raft k
  obtain ⟨nodeRef, info, hlookup, hinfo, hcases⟩ := hw.registersRaft_cases heff
  have hentry : (component h.network.id h.network.id h).entry = some (nodeRef.id, some info) := by
    simp [component, hlookup, hinfo]
  -- the local node runs and is only told its new proximity, or it is registered now
  rcases hcases with ⟨addr, haddr, rfl⟩ | ⟨haddr, rfl⟩
  · have hrunning : (component h.network.id h.network.id h).running = true := by
      simp [component, Network.getNode, hlookup, haddr]
    have hsend : component h.network.id k ((h.withRaft raft).send addr
        (.updateProximity (.localNode { id := h.network.id, raft }))) =
        component h.network.id k (h.withRaft raft) := rfl
    rw [hsend, hraft]
    by_cases hk : k = h.network.id
    · simp [hk, Component.step, hentry, hrunning]
    · simp [hk]
  · have hrunning : (component h.network.id h.network.id h).running = false := by
      simp [component, Network.getNode, hlookup, haddr]
    have hreg := component_registered (h.withRaft raft) h.network.id info k
    simp only [show (h.withRaft raft).network.id = h.network.id from rfl] at hreg
    rw [hreg, hraft]
    by_cases hk : k = h.network.id
    · simp [hk, Component.step, hentry, hrunning]
    · simp [hk]

/-- What `ConnectNode` does to the components. -/
theorem component_connected (h : Host) (command : ConnectNode) (k : NodeId) :
    component h.network.id k (h.connected command) =
      if k = command.id then
        (component h.network.id k h).step h.network.id k (.message (.connectNode command))
      else component h.network.id k h := by
  have hinfo : (component h.network.id command.id h).entry.bind Prod.snd =
      h.network.nodes[command.id]?.bind NodeRef.info := by
    unfold component
    cases h.network.nodes[command.id]? <;> rfl
  unfold connected
  by_cases hcurrent : h.network.nodes[command.id]?.bind NodeRef.info = some command.info
  · -- the fast path for an unchanged info
    rw [if_pos hcurrent]
    by_cases hk : k = command.id
    · subst hk
      simp [Component.step, hinfo, hcurrent]
    · rw [if_neg hk]
  · rw [if_neg hcurrent, component_registered]
    by_cases hk : k = command.id
    · subst hk
      simp [Component.step, hinfo, hcurrent]
    · rw [if_neg hk, if_neg hk]

/-- What a status report does to the components. -/
theorem component_handleNodeStatusChange {h : Host} (hs : h.network.state.Consistent)
    (msg : HandleNodeStatusChange) (own k : NodeId) :
    component own k { h with network := h.network.handleNodeStatusChange msg } =
      if k = msg.id then
        (component own k h).step own k (.message (.handleNodeStatusChange msg))
      else component own k h := by
  have hstanding := Network.standing_handleNodeStatusChange hs msg k
  obtain ⟨hnodes, hraft, -⟩ := Network.handleNodeStatusChange_frame h.network msg
  have hmem : (component own k h).entry.isSome = true ↔ k ∈ h.network.nodes := by
    simp [component]
  by_cases hk : k = msg.id
  · rw [if_pos hk]
    by_cases hknown : k ∈ h.network.nodes
    · rw [if_pos ⟨hk, hknown⟩] at hstanding
      simp only [Component.step, hmem.2 hknown, if_true]
      simp only [component, Network.getNode, hnodes, hraft, hstanding]
    · rw [if_neg fun hc => hknown hc.2] at hstanding
      have hnone : ¬ (component own k h).entry.isSome = true := fun hc => hknown (hmem.1 hc)
      simp only [Component.step, if_neg hnone]
      simp only [component, Network.getNode, hnodes, hraft, hstanding]
  · rw [if_neg fun hc => hk hc.1] at hstanding
    rw [if_neg hk]
    simp only [component, Network.getNode, hnodes, hraft, hstanding]

/-- What `DisconnectNode` does to the components. -/
theorem component_handleDisconnectNode (h : Host) (command : DisconnectNode) (own k : NodeId) :
    component own k { h with network := h.network.handleDisconnectNode command } =
      if k = command.id then
        (component own k h).step own k (.message (.disconnectNode command))
      else component own k h := by
  by_cases hk : k = command.id
  · simp [component, Component.step, Network.handleDisconnectNode, Network.getNode, hk]
  · simp [component, Network.handleDisconnectNode, Network.getNode, NodeTable.lookup_erase, hk]

/-- A step changes the component of the node it is about, as `Component.step` says, and no other. -/
theorem component_step {sha256 : String → String} {h h' : Host} {e : HostEvent} (hw : WellFormed h)
    (hs : h.network.state.Consistent) (hstep : RuntimeStep sha256 h e h') (k : NodeId) :
    component h.network.id k h' =
      if e.about h.network.id = some k then (component h.network.id k h).step h.network.id k e
      else component h.network.id k h := by
  obtain ⟨hruntime, hstep⟩ := hstep
  have heff := step_cases hstep
  cases habout : e.about h.network.id with
  | none =>
      rw [if_neg (by simp)]
      exact component_of_sameMembership (heff.sameMembership _ hruntime habout) _ _
  | some id =>
      simp only [Option.some.injEq, eq_comm (a := id)]
      rcases about_cases habout with ⟨raft, rfl, rfl⟩ | ⟨msg, rfl, rfl⟩ | ⟨command, rfl, rfl⟩ |
        ⟨command, rfl, rfl⟩
      · exact component_registersRaft hw heff k
      · rw [heff]
        exact component_handleNodeStatusChange hs msg _ k
      · obtain ⟨delegations, rfl⟩ := heff
        exact component_connected h command k
      · rw [heff]
        exact component_handleDisconnectNode h command _ k

/-- **A running network is a product of per-node components.** -/
theorem perKey (sha256 : String → String) (own : NodeId) :
    PerKey (RuntimeStep sha256)
      (fun h => WellFormed h ∧ h.network.state.Consistent ∧ h.network.id = own)
      (component own) (HostEvent.about own) (Component.step own) where
  inv h e h' hI hstep := by
    obtain ⟨hw, hs, rfl⟩ := hI
    have heff := step_cases hstep.2
    exact ⟨heff.wellFormed hw, heff.consistent hs, heff.network_id⟩
  own k h e h' hI hstep habout := by
    obtain ⟨hw, hs, rfl⟩ := hI
    rw [component_step hw hs hstep, if_pos habout]
  frame k h e h' hI hstep habout := by
    obtain ⟨hw, hs, rfl⟩ := hI
    rw [component_step hw hs hstep, if_neg habout]

/-- Two runs with the same events about every node leave the same components. -/
theorem components_agree {sha256 : String → String} {h h₁ h₂ : Host} {es₁ es₂ : List HostEvent}
    (hr : Reachable sha256 h) (hrt₁ : ∀ e ∈ es₁, e.IsRuntime) (hrt₂ : ∀ e ∈ es₂, e.IsRuntime)
    (hrun₁ : Runs (Step sha256) h es₁ h₁) (hrun₂ : Runs (Step sha256) h es₂ h₂)
    (hsame : ∀ k, eventsAbout (HostEvent.about h.network.id) k es₁ =
      eventsAbout (HostEvent.about h.network.id) k es₂) (k : NodeId) :
    component h.network.id k h₁ = component h.network.id k h₂ :=
  (perKey sha256 h.network.id).agree (hrun₁.restrict hrt₁) (hrun₂.restrict hrt₂)
    ⟨hr.wellFormed, hr.disjoint, rfl⟩ k (hsame k)

/-- **Standing is per node and never contradictory.** In every reachable state the two sets are disjoint;
    and two runs of a started network whose messages about each node come in the same order end with the
    same sets and the same ids and infos in the table, however the messages about different nodes are
    interleaved. -/
theorem standing_perNode (sha256 : String → String) :
    (∀ h, Reachable sha256 h →
      Disjoint h.network.state.connectedNodes h.network.state.isolatedNodes) ∧
    ∀ h h₁ h₂ es₁ es₂, Reachable sha256 h →
      (∀ e ∈ es₁, e.IsRuntime) → (∀ e ∈ es₂, e.IsRuntime) →
      Runs (Step sha256) h es₁ h₁ → Runs (Step sha256) h es₂ h₂ →
      (∀ k, eventsAbout (HostEvent.about h.network.id) k es₁ =
        eventsAbout (HostEvent.about h.network.id) k es₂) →
      h₁.network.state.connectedNodes = h₂.network.state.connectedNodes ∧
      h₁.network.state.isolatedNodes = h₂.network.state.isolatedNodes ∧
      ∀ k : NodeId, h₁.network.nodes[k]?.map (fun nodeRef => (nodeRef.id, nodeRef.info)) =
        h₂.network.nodes[k]?.map (fun nodeRef => (nodeRef.id, nodeRef.info)) := by
  refine ⟨fun h hr => hr.disjoint, ?_⟩
  intro h h₁ h₂ es₁ es₂ hr hrt₁ hrt₂ hrun₁ hrun₂ hsame
  have hagree := components_agree hr hrt₁ hrt₂ hrun₁ hrun₂ hsame
  have hstanding : ∀ k, h₁.network.state.standing k = h₂.network.state.standing k :=
    fun k => congrArg Component.standing (hagree k)
  have hs₁ := (hr.runs hrun₁).disjoint
  have hs₂ := (hr.runs hrun₂).disjoint
  refine ⟨?_, ?_, fun k => congrArg Component.entry (hagree k)⟩
  · ext k
    rw [NetworkState.mem_connectedNodes_iff hs₁, NetworkState.mem_connectedNodes_iff hs₂, hstanding]
  · ext k
    rw [NetworkState.mem_isolatedNodes_iff, NetworkState.mem_isolatedNodes_iff, hstanding]

/-- Two interleavings of a removal of node 2 with messages about node 3. -/
theorem standing_perNode_interleaved :
    let start := sampleRun [.started, .message (.connectNode { id := 2, info := sampleInfo }),
      .message (.connectNode { id := 3, info := sampleInfo })]
    let down (id : NodeId) : HostEvent :=
      .message (.handleNodeStatusChange { id, status := .disconnected })
    let remove : HostEvent := .message (.disconnectNode { id := 2 })
    let run (es : List HostEvent) : Host := finalState (Host.step fun _ => "") start es
    (run [down 2, remove, down 3]).network.state.isolatedNodes =
      (run [down 3, down 2, remove]).network.state.isolatedNodes := by
  intro start down remove run
  have hr : Reachable (fun _ => "") start := ⟨0, 1, sampleInfo, Ring.new 10, _, runs_sampleRun rfl⟩
  have hsame : ∀ k, eventsAbout (HostEvent.about start.network.id) k [down 2, remove, down 3] =
      eventsAbout (HostEvent.about start.network.id) k [down 3, down 2, remove] := by
    intro k
    by_cases h2 : k = 2
    · subst h2; rfl
    · by_cases h3 : k = 3
      · subst h3; rfl
      · simp [eventsAbout, HostEvent.about, down, remove, eq_comm, h2, h3]
  exact ((standing_perNode fun _ => "").2 start (run [down 2, remove, down 3])
    (run [down 3, down 2, remove]) _ _ hr (by simp [down, remove, HostEvent.IsRuntime])
    (by simp [down, remove, HostEvent.IsRuntime]) (runs_finalState rfl) (runs_finalState rfl) hsame).2.1

end Host

end RaftScaffold
