import RaftScaffold.Network.Handlers

set_option autoImplicit false

/-! # What a host's step does

Registering a node never fails (`registerNode_eq`), so connecting a node, starting and registering Raft are
compositions of one total function, `Host.registered`. With it every step is one of the effects that
`Host.Effect` lists (`Host.step_cases`); the later files argue about these effects and never unfold a
handler. -/

namespace RaftScaffold

open Transition

/-! ## The node table -/

namespace NodeTable

theorem lookup_insert (nodes : NodeTable) (k id : NodeId) (nodeRef : NodeRef) :
    (nodes.insert id nodeRef)[k]? = if k = id then some nodeRef else nodes[k]? := by
  rw [Std.ExtTreeMap.getElem?_insert]
  simp only [Std.LawfulEqCmp.compare_eq_iff_eq, eq_comm (a := id)]

theorem lookup_erase (nodes : NodeTable) (k id : NodeId) :
    (nodes.erase id)[k]? = if k = id then none else nodes[k]? := by
  rw [Std.ExtTreeMap.getElem?_erase]
  simp only [Std.LawfulEqCmp.compare_eq_iff_eq, eq_comm (a := id)]

theorem insert_insert (nodes : NodeTable) (id : NodeId) (a b : NodeRef) :
    (nodes.insert id a).insert id b = nodes.insert id b := by
  apply Std.ExtTreeMap.ext_getElem?
  intro k
  simp only [lookup_insert]
  split <;> rfl

/-- Writing back the entry that is there changes nothing. -/
theorem insert_self {nodes : NodeTable} {id : NodeId} {nodeRef : NodeRef}
    (h : nodes[id]? = some nodeRef) : nodes.insert id nodeRef = nodes := by
  apply Std.ExtTreeMap.ext_getElem?
  intro k
  rw [lookup_insert]
  split
  · next hk => rw [hk, h]
  · rfl

theorem mem_iff (nodes : NodeTable) (id : NodeId) :
    id ∈ nodes ↔ ∃ nodeRef, nodes[id]? = some nodeRef := by
  rw [Std.ExtTreeMap.mem_iff_isSome_getElem?, Option.isSome_iff_exists]

end NodeTable

/-- Configuring touches the table only. -/
theorem Network.configureWith_eq (network : Network) (sha256 : String → String)
    (seeds : List NodeInfo) :
    network.configureWith sha256 seeds =
      { network with nodes := (network.configureWith sha256 seeds).nodes } := by
  unfold Network.configureWith
  refine List.foldlRecOn (motive := fun network' : Network =>
    network' = { network with nodes := network'.nodes }) _ _ rfl fun network' heq seed _ => ?_
  rw [heq]

/-- A status report touches the membership sets only. -/
theorem Network.handleNodeStatusChange_eq (network : Network) (msg : HandleNodeStatusChange) :
    network.handleNodeStatusChange msg =
      { network with state := (network.handleNodeStatusChange msg).state } := by
  unfold Network.handleNodeStatusChange
  split
  · cases msg.status <;> rfl
  · rfl

theorem Network.handleNodeStatusChange_frame (network : Network) (msg : HandleNodeStatusChange) :
    (network.handleNodeStatusChange msg).nodes = network.nodes ∧
      (network.handleNodeStatusChange msg).raft = network.raft ∧
      (network.handleNodeStatusChange msg).id = network.id := by
  rw [Network.handleNodeStatusChange_eq]
  exact ⟨rfl, rfl, rfl⟩

namespace Host

/-! ## Registration of a node -/

/-- The entry that a registration starts from: the one in the table, or a new one. -/
def entryFor (self : Host) (id : NodeId) (info : NodeInfo) : NodeRef :=
  self.network.nodes[id]?.getD { id, info := some info, addr := none }

/-- The proximity that a registration gives a new actor; `none` where the entry is current or has to wait
    for the Raft actor. -/
def newProximity (self : Host) (id : NodeId) (info : NodeInfo) : Option Proximity :=
  let nodeRef := self.entryFor id info
  if nodeRef.info = some info ∧ nodeRef.addr.isSome then none
  else
    match Network.determineProximity self.network.id id info self.network.raft with
    | .ok proximity => some proximity
    | .error _ => none

/-- The actors that a registration starts: at most one. -/
def newActors (self : Host) (id : NodeId) (info : NodeInfo) : List NodeActor :=
  (self.newProximity id info).toList.map fun proximity =>
    NodeActor.start (Node.new id info self.network.id self.network.info proximity)

/-- The entry that a registration leaves. -/
def registeredRef (self : Host) (id : NodeId) (info : NodeInfo) : NodeRef :=
  { self.entryFor id info with
    info := some info
    addr :=
      if (self.newProximity id info).isSome then some ⟨self.actors.length⟩
      else (self.entryFor id info).addr }

/-- The host after a registration. -/
def registered (self : Host) (id : NodeId) (info : NodeInfo) : Host :=
  { self with
    network :=
      { self.network with
        nodes := self.network.nodes.insert id (self.registeredRef id info)
        state := self.network.state.restoreNode id }
    actors := self.actors ++ self.newActors id info }

/-- **A registration always succeeds**, and leaves `registered`. -/
theorem registerNode_eq (h : Host) (id : NodeId) (info : NodeInfo) :
    h.registerNode id info = .ok (h.registered id info) := by
  have hnodes : ∃ nodes : NodeTable,
      (if id ∈ h.network.nodes then h.network.nodes
        else h.network.nodes.insert id { id := id, info := some info, addr := none }) = nodes ∧
      nodes[id]? = some (h.entryFor id info) ∧
      ∀ nodeRef, nodes.insert id nodeRef = h.network.nodes.insert id nodeRef := by
    by_cases hmem : id ∈ h.network.nodes
    · obtain ⟨nodeRef, hlookup⟩ := (NodeTable.mem_iff _ _).1 hmem
      exact ⟨_, if_pos hmem, by simp [entryFor, hlookup], fun _ => rfl⟩
    · have hlookup : h.network.nodes[id]? = none := by
        rw [← Option.not_isSome_iff_eq_none, ← Std.ExtTreeMap.mem_iff_isSome_getElem?]
        exact hmem
      exact ⟨_, if_neg hmem, by simp [entryFor, hlookup],
        fun _ => NodeTable.insert_insert _ _ _ _⟩
  obtain ⟨nodes, hnodes, hlookup, hinsert⟩ := hnodes
  unfold registerNode
  simp only [hnodes, hlookup]
  -- the branches of the source: the entry is current, it gets a new actor, or it waits for the Raft actor
  by_cases hcurrent : (h.entryFor id info).info = some info ∧ (h.entryFor id info).addr.isSome
  · -- the entry is current: writing it back changes nothing
    have hsame : nodes = h.network.nodes.insert id (h.entryFor id info) := by
      rw [← hinsert, NodeTable.insert_self hlookup]
    have hnone : h.newProximity id info = none := by simp [newProximity, hcurrent]
    have href : h.registeredRef id info = h.entryFor id info := by
      unfold registeredRef
      rw [hnone, ← hcurrent.1]
      rfl
    simp only [if_pos hcurrent, registered, href, newActors, hnone, withNodes, hsame]
    simp [bind, Except.bind, Network.restoreNode]
  · simp only [if_neg hcurrent]
    cases hprox : Network.determineProximity h.network.id id info h.network.raft with
    | ok proximity =>
        have hsome : h.newProximity id info = some proximity := by
          simp [newProximity, hcurrent, hprox]
        simp [bind, Except.bind, registered, registeredRef, newActors, hsome, withNodes, startNode,
          Network.restoreNode, hinsert]
    | error u =>
        have hnone : h.newProximity id info = none := by simp [newProximity, hcurrent, hprox]
        simp [bind, Except.bind, registered, registeredRef, newActors, hnone, withNodes,
          Network.restoreNode, hinsert]

@[simp] theorem registered_raft (h : Host) (id : NodeId) (info : NodeInfo) :
    (h.registered id info).network.raft = h.network.raft := rfl

@[simp] theorem registered_state (h : Host) (id : NodeId) (info : NodeInfo) :
    (h.registered id info).network.state = h.network.state.restoreNode id := rfl

@[simp] theorem registeredRef_info (h : Host) (id : NodeId) (info : NodeInfo) :
    (h.registeredRef id info).info = some info := rfl

@[simp] theorem registeredRef_id (h : Host) (id : NodeId) (info : NodeInfo) :
    (h.registeredRef id info).id = (h.entryFor id info).id := rfl

theorem registered_lookup (h : Host) (id : NodeId) (info : NodeInfo) (k : NodeId) :
    (h.registered id info).network.nodes[k]? =
      if k = id then some (h.registeredRef id info) else h.network.nodes[k]? :=
  NodeTable.lookup_insert _ _ _ _

/-- Actors that run already keep their addresses. -/
theorem registered_actorAt (h : Host) (id : NodeId) (info : NodeInfo) {addr : Addr}
    {actor : NodeActor} (hactor : h.actorAt addr = some actor) :
    (h.registered id info).actorAt addr = some actor := by
  unfold actorAt at hactor ⊢
  obtain ⟨hlt, -⟩ := List.getElem?_eq_some_iff.1 hactor
  rw [registered, List.getElem?_append_left hlt, hactor]

/-! ## Starting -/

/-- What `started` does with one entry of the table. -/
def startEntry (self : Host) (entry : NodeId × NodeRef) : Host :=
  match entry.2.info with
  | some info => self.registered entry.1 info
  | none => self

theorem started_eq (h : Host) :
    h.started = .ok (h.network.nodes.toList.foldl startEntry h) := by
  unfold started
  generalize h.network.nodes.toList = entries
  induction entries generalizing h with
  | nil => rfl
  | cons entry entries ih =>
      obtain ⟨id, nodeRef⟩ := entry
      rw [List.foldlM_cons, List.foldl_cons, ← ih]
      cases hinfo : nodeRef.info with
      | none => simp [startEntry, hinfo, bind, Except.bind]
      | some info => simp [startEntry, hinfo, registerNode_eq, bind, Except.bind]

/-! ## Connecting a node -/

/-- The host after `handle_connect_remote_node`. -/
def connected (self : Host) (command : ConnectNode) : Host :=
  if self.network.nodes[command.id]?.bind NodeRef.info = some command.info then self
  else self.registered command.id command.info

theorem handleConnectRemoteNode_eq (h : Host) (command : ConnectNode) :
    h.handleConnectRemoteNode command = .ok (h.connected command) := by
  unfold handleConnectRemoteNode connected
  cases hinfo : h.network.nodes[command.id]?.bind NodeRef.info with
  | none => simp [registerNode_eq]
  | some currentInfo =>
      simp only [Option.some.injEq, eq_comm (a := currentInfo), registerNode_eq]
      split <;> rfl

theorem handle_connectNode (h : Host) (command : ConnectNode) :
    h.handle (.connectNode command) = .ok
      { h.connected command with
        delegations :=
          (h.connected command).delegations ++ [ChangeClusterConfig.newToAdd [command.id]] } := by
  simp [handle, handleConnectNode, handleConnectRemoteNode_eq, bind, Except.bind]

/-! ## Registering Raft -/

/-- The host with a Raft actor's address stored. -/
def withRaft (self : Host) (raft : RaftAddr) : Host :=
  { self with network := { self.network with raft := some raft } }

/-- What `RegisterRaft` does if it does not panic: a running local node is sent its new proximity, one that
    is not running is registered. -/
def RegistersRaft (h : Host) (raft : RaftAddr) (h' : Host) : Prop :=
  ∃ nodeRef, h.network.nodes[h.network.id]? = some nodeRef ∧
    match nodeRef.info, nodeRef.addr with
    | some info, some addr =>
        match Network.determineProximity h.network.id nodeRef.id info (some raft) with
        | .ok proximity => h' = (h.withRaft raft).send addr (.updateProximity proximity)
        | .error _ => h' = h.withRaft raft
    | some info, none => h' = (h.withRaft raft).registered nodeRef.id info
    | none, _ => h' = h.withRaft raft

theorem handle_registerRaft {h h' : Host} {raft : RaftAddr}
    (hstep : h.handle (.registerRaft raft) = .ok h') : h.RegistersRaft raft h' := by
  simp only [handle, handleRegisterRaft] at hstep
  cases hown : h.network.nodes[h.network.id]? with
  | none => rw [hown] at hstep; cases hstep
  | some nodeRef =>
      refine ⟨nodeRef, hown, ?_⟩
      rw [hown] at hstep
      cases hinfo : nodeRef.info with
      | none =>
          simp only [hinfo, Except.map] at hstep
          exact (Except.ok.inj hstep).symm
      | some info =>
          cases haddr : nodeRef.addr with
          | none =>
              simp [hinfo, haddr, registerRaftAndCreateLocalNode, registerNode_eq, bind, Except.bind,
                Except.map] at hstep
              exact hstep.symm
          | some addr =>
              simp only [hinfo, haddr, registerRaft, expect_some, bind, Except.bind] at hstep
              cases hprox : Network.determineProximity h.network.id nodeRef.id info (some raft) with
              | ok proximity =>
                  simp only [hprox, Except.map] at hstep
                  simp only [hprox]
                  exact (Except.ok.inj hstep).symm
              | error u =>
                  simp only [hprox, Except.map] at hstep
                  simp only [hprox]
                  exact (Except.ok.inj hstep).symm

/-! ## The effect of each event -/

/-- `h'` is `h`, but for the futures of queries that wait. -/
def AsksOn (h h' : Host) : Prop :=
  ∃ leaderQueries snapshots, h' = { h with leaderQueries, snapshots }

theorem handleQuery_asksOn (h : Host) (query : NetworkQuery) : h.AsksOn (h.handleQuery query) := by
  unfold handleQuery
  split
  · split
    · exact ⟨_, _, rfl⟩
    · exact ⟨_, _, rfl⟩
  · split
    · exact ⟨_, _, rfl⟩
    · exact ⟨_, _, rfl⟩
  · exact ⟨_, _, rfl⟩

/-- The effects of the events on a host. -/
def Effect (sha256 : String → String) (h : Host) : HostEvent → Host → Prop
  | .configureWith seeds, h' => h' = { h with network := h.network.configureWith sha256 seeds }
  | .started, h' => h' = h.network.nodes.toList.foldl startEntry h
  | .message (.registerRaft raft), h' => h.RegistersRaft raft h'
  | .message (.raftMetrics now metrics), h' =>
      ∃ state, h.network.state.advanceStateOnRaftStatus now metrics = .ok state ∧
        h' = { h with network := { h.network with state, metrics := some metrics } }
  | .message (.bindEndpoint _), h' =>
      ∃ server, h' = { h with network := { h.network with server } }
  | .message (.query _), h' => h.AsksOn h'
  | .message (.handleNodeStatusChange msg), h' =>
      h' = { h with network := h.network.handleNodeStatusChange msg }
  | .message (.connectNode command), h' =>
      ∃ delegations, h' = { h.connected command with delegations }
  | .message (.disconnectNode command), h' =>
      h' = { h with network := h.network.handleDisconnectNode command }
  | .delegate _, h' =>
      ∃ delegations, h' = { h with delegations } ∨
        ∃ leader command,
          h' = { h with delegations }.send leader (.changeClusterConfig command)
  | .deliver n, h' =>
      ∃ addr msg actor actor', h.outbox[n]? = some (addr, msg) ∧ h.actorAt addr = some actor ∧
        actor.step msg.event = .ok actor' ∧
        h' = { h with outbox := h.outbox.eraseIdx n, actors := h.actors.set addr.index actor' }
  | .node addr event, h' =>
      event.isOwn = true ∧ ∃ actor actor', h.actorAt addr = some actor ∧
        actor.step event = .ok actor' ∧ h' = { h with actors := h.actors.set addr.index actor' }
  | .wake _ _, h' => h.AsksOn h'
  | .forward _, h' => h.AsksOn h'

theorem stepNode_eq_ok {h h' : Host} {addr : Addr} {event : NodeEvent}
    (hstep : h.stepNode addr event = .ok h') :
    ∃ actor actor', h.actorAt addr = some actor ∧ actor.step event = .ok actor' ∧
      h' = { h with actors := h.actors.set addr.index actor' } := by
  unfold stepNode at hstep
  cases hactor : h.actorAt addr with
  | none => rw [hactor] at hstep; cases hstep
  | some actor =>
      rw [hactor] at hstep
      obtain ⟨actor', hactor', heq⟩ := bind_eq_ok.1 hstep
      exact ⟨actor, actor', rfl, hactor', (Except.ok.inj heq).symm⟩

/-- What polling a delegation does: it sends the change to the leader, or drops it. -/
theorem step_delegate {sha256 : String → String} {h h' : Host} {n : Nat}
    (hstep : h.step sha256 (.delegate n) = .ok h') :
    ∃ command, h.delegations[n]? = some command ∧
      ((∃ leader, h.network.leaderDelegate = .ok leader ∧
          h' = { h with delegations := h.delegations.eraseIdx n }.send leader
            (.changeClusterConfig command)) ∨
        ∃ err, h.network.leaderDelegate = .error err ∧
          h' = { h with delegations := h.delegations.eraseIdx n }) := by
  simp only [step] at hstep
  split at hstep
  · cases hstep
  · next command hcommand =>
      refine ⟨command, hcommand, ?_⟩
      simp only [delegateToLeader] at hstep
      cases hleader : h.network.leaderDelegate with
      | error err =>
          simp only [hleader, bind, Except.bind] at hstep
          exact .inr ⟨err, rfl, (Except.ok.inj hstep).symm⟩
      | ok leader =>
          simp only [hleader, bind, Except.bind] at hstep
          exact .inl ⟨leader, rfl, (Except.ok.inj hstep).symm⟩

/-- **What a step can do.** -/
theorem step_cases {sha256 : String → String} {h h' : Host} {e : HostEvent}
    (hstep : h.step sha256 e = .ok h') : h.Effect sha256 e h' := by
  cases e with
  | configureWith seeds => exact (Except.ok.inj hstep).symm
  | started =>
      rw [step, started_eq, orPanic_eq_ok] at hstep
      exact (Except.ok.inj hstep).symm
  | message msg =>
      rw [step, orPanic_eq_ok] at hstep
      cases msg with
      | registerRaft raft => exact handle_registerRaft hstep
      | raftMetrics now metrics =>
          obtain ⟨network, hnetwork, rfl⟩ := map_eq_ok.1 hstep
          obtain ⟨state, hstate, heq⟩ := bind_eq_ok.1 hnetwork
          obtain rfl := Except.ok.inj heq
          exact ⟨state, hstate, rfl⟩
      | bindEndpoint startServer =>
          simp only [handle, Network.handleBindEndpoint] at hstep
          cases hserver : startServer h.network.info.clusterAddress with
          | error err =>
              rw [hserver] at hstep
              exact ⟨h.network.server, (Except.ok.inj hstep).symm⟩
          | ok server =>
              rw [hserver] at hstep
              exact ⟨some server, (Except.ok.inj hstep).symm⟩
      | query query =>
          obtain rfl := Except.ok.inj hstep
          exact handleQuery_asksOn h query
      | handleNodeStatusChange msg => exact (Except.ok.inj hstep).symm
      | connectNode command =>
          rw [handle_connectNode] at hstep
          exact ⟨_, (Except.ok.inj hstep).symm⟩
      | disconnectNode command => exact (Except.ok.inj hstep).symm
  | delegate n =>
      obtain ⟨command, -, ⟨leader, -, rfl⟩ | ⟨err, -, rfl⟩⟩ := step_delegate hstep
      · exact ⟨_, .inr ⟨leader, command, rfl⟩⟩
      · exact ⟨_, .inl rfl⟩
  | deliver n =>
      simp only [step] at hstep
      split at hstep
      · cases hstep
      · next addr msg hmsg =>
          obtain ⟨actor, actor', hactor, hactor', rfl⟩ := stepNode_eq_ok hstep
          exact ⟨addr, msg, actor, actor', hmsg, hactor, hactor', rfl⟩
  | node addr event =>
      simp only [step] at hstep
      split at hstep
      · next hown => exact ⟨hown, stepNode_eq_ok hstep⟩
      · cases hstep
  | wake n timer =>
      simp only [step] at hstep
      split at hstep
      · cases hstep
      · obtain ⟨-, -, hstep⟩ := bind_eq_ok.1 hstep
        exact ⟨_, _, (Except.ok.inj hstep).symm⟩
  | forward n =>
      simp only [step] at hstep
      split at hstep
      · cases hstep
      · obtain ⟨-, -, hstep⟩ := bind_eq_ok.1 hstep
        exact ⟨_, _, (Except.ok.inj hstep).symm⟩

/-! ## Events about a node, and the others -/

/-- Only four kinds of messages are about a node. -/
theorem about_cases {own id : NodeId} {e : HostEvent} (h : e.about own = some id) :
    (∃ raft, e = .message (.registerRaft raft) ∧ id = own) ∨
      (∃ msg, e = .message (.handleNodeStatusChange msg) ∧ id = msg.id) ∨
      (∃ command, e = .message (.connectNode command) ∧ id = command.id) ∨
      ∃ command, e = .message (.disconnectNode command) ∧ id = command.id := by
  cases e with
  | message msg =>
      cases msg with
      | registerRaft raft => exact .inl ⟨raft, rfl, (Option.some.inj h).symm⟩
      | handleNodeStatusChange msg => exact .inr (.inl ⟨msg, rfl, (Option.some.inj h).symm⟩)
      | connectNode command => exact .inr (.inr (.inl ⟨command, rfl, (Option.some.inj h).symm⟩))
      | disconnectNode command => exact .inr (.inr (.inr ⟨command, rfl, (Option.some.inj h).symm⟩))
      | _ => cases h
  | _ => cases h

/-- `h'` has the table, the Raft address and the membership sets of `h`. -/
structure SameMembership (h h' : Host) : Prop where
  id : h'.network.id = h.network.id
  nodes : h'.network.nodes = h.network.nodes
  raft : h'.network.raft = h.network.raft
  connected : h'.network.state.connectedNodes = h.network.state.connectedNodes
  isolated : h'.network.state.isolatedNodes = h.network.state.isolatedNodes

theorem SameMembership.of_network {h h' : Host} (heq : h'.network = h.network) :
    SameMembership h h' := by
  constructor <;> rw [heq]

/-- A runtime event that is about no node leaves the membership data alone. -/
theorem Effect.sameMembership {sha256 : String → String} {h h' : Host} {e : HostEvent}
    (heff : h.Effect sha256 e h') (own : NodeId) (hruntime : e.IsRuntime) (habout : e.about own = none) :
    SameMembership h h' := by
  cases e with
  | configureWith seeds => exact hruntime.elim
  | started => exact hruntime.elim
  | message msg =>
      cases msg with
      | raftMetrics now metrics =>
          obtain ⟨state, hstate, rfl⟩ := heff
          obtain ⟨hconn, hisol, -⟩ := NetworkState.advanceStateOnRaftStatus_frame hstate
          exact ⟨rfl, rfl, rfl, hconn, hisol⟩
      | bindEndpoint startServer => obtain ⟨server, rfl⟩ := heff; exact ⟨rfl, rfl, rfl, rfl, rfl⟩
      | query query => obtain ⟨_, _, rfl⟩ := heff; exact .of_network rfl
      | registerRaft raft => cases habout
      | handleNodeStatusChange msg => cases habout
      | connectNode command => cases habout
      | disconnectNode command => cases habout
  | delegate n =>
      obtain ⟨delegations, rfl | ⟨leader, command, rfl⟩⟩ := heff <;> exact .of_network rfl
  | deliver n => obtain ⟨_, _, _, _, _, _, _, rfl⟩ := heff; exact .of_network rfl
  | node addr event => obtain ⟨_, _, _, _, _, rfl⟩ := heff; exact .of_network rfl
  | wake n timer => obtain ⟨_, _, rfl⟩ := heff; exact .of_network rfl
  | forward n => obtain ⟨_, _, rfl⟩ := heff; exact .of_network rfl

/-! ## Properties of the network -/

/-- **The rule for properties of the network.** What holds of the network before an event holds after it if the
    writes that events are made of keep it: a registration inserts an entry and restores the node, and each of
    the other messages makes one write of its own. -/
theorem Effect.network_rule {sha256 : String → String} {h h' : Host} {e : HostEvent} {P : Network → Prop}
    (heff : h.Effect sha256 e h') (hP : P h.network)
    (hinsert : ∀ network id nodeRef, P network →
      P { network with nodes := network.nodes.insert id nodeRef })
    (hrestore : ∀ network id, P network → P (network.restoreNode id))
    (hraft : ∀ raft, e = .message (.registerRaft raft) → P { h.network with raft := some raft })
    (hserver : ∀ server, P { h.network with server })
    (hmetrics : ∀ now metrics state, e = .message (.raftMetrics now metrics) →
      h.network.state.advanceStateOnRaftStatus now metrics = .ok state →
      P { h.network with state, metrics := some metrics })
    (hreport : ∀ msg, e = .message (.handleNodeStatusChange msg) →
      P (h.network.handleNodeStatusChange msg))
    (hdisconnect : ∀ command, e = .message (.disconnectNode command) →
      P (h.network.handleDisconnectNode command)) :
    P h'.network := by
  have hregister (h : Host) (id : NodeId) (info : NodeInfo) (hP : P h.network) :
      P (h.registered id info).network := hrestore _ id (hinsert _ id _ hP)
  cases e with
  | configureWith seeds =>
      rw [heff, Network.configureWith]
      exact List.foldlRecOn _ _ hP fun network hP seed _ => hinsert network _ _ hP
  | started =>
      rw [heff]
      refine List.foldlRecOn (motive := fun h : Host => P h.network) _ _ hP fun h hP entry _ => ?_
      unfold startEntry
      split
      · exact hregister h _ _ hP
      · exact hP
  | message msg =>
      cases msg with
      | registerRaft raft =>
          obtain ⟨nodeRef, -, heff⟩ := heff
          split at heff
          · split at heff <;> rw [heff] <;> exact hraft raft rfl
          · rw [heff]
            exact hregister _ _ _ (hraft raft rfl)
          · rw [heff]
            exact hraft raft rfl
      | raftMetrics now metrics =>
          obtain ⟨state, hstate, rfl⟩ := heff
          exact hmetrics now metrics state rfl hstate
      | bindEndpoint startServer =>
          obtain ⟨server, rfl⟩ := heff
          exact hserver server
      | query query =>
          obtain ⟨_, _, rfl⟩ := heff
          exact hP
      | handleNodeStatusChange msg =>
          rw [heff]
          exact hreport msg rfl
      | connectNode command =>
          obtain ⟨delegations, rfl⟩ := heff
          show P (h.connected command).network
          unfold connected
          split
          · exact hP
          · exact hregister h _ _ hP
      | disconnectNode command =>
          rw [heff]
          exact hdisconnect command rfl
  | delegate n =>
      obtain ⟨delegations, rfl | ⟨leader, command, rfl⟩⟩ := heff
      · exact hP
      · exact hP
  | deliver n =>
      obtain ⟨_, _, _, _, _, _, _, rfl⟩ := heff
      exact hP
  | node addr event =>
      obtain ⟨_, _, _, _, _, rfl⟩ := heff
      exact hP
  | wake n timer =>
      obtain ⟨_, _, rfl⟩ := heff
      exact hP
  | forward n =>
      obtain ⟨_, _, rfl⟩ := heff
      exact hP

/-- No event changes the network's id. -/
theorem Effect.network_id {sha256 : String → String} {h h' : Host} {e : HostEvent}
    (heff : h.Effect sha256 e h') : h'.network.id = h.network.id := by
  refine heff.network_rule (P := fun network => network.id = h.network.id) rfl
    (fun _ _ _ hid => hid) (fun _ _ hid => hid) (fun _ _ => rfl) (fun _ => rfl)
    (fun _ _ _ _ _ => rfl) (fun msg _ => ?_) (fun _ _ => rfl)
  rw [Network.handleNodeStatusChange_eq]

theorem runs_network_id {sha256 : String → String} {h h' : Host} {es : List HostEvent}
    (hrun : Runs (Step sha256) h es h') : h'.network.id = h.network.id :=
  hrun.invariant (I := fun host => host.network.id = h.network.id)
    (fun _ _ _ hid hstep => (step_cases hstep).network_id.trans hid) rfl

/-- Only `RegisterRaft` writes the Raft actor's address. -/
theorem Effect.raft {sha256 : String → String} {h h' : Host} {e : HostEvent}
    (heff : h.Effect sha256 e h') (he : ∀ raft, e ≠ .message (.registerRaft raft)) :
    h'.network.raft = h.network.raft := by
  refine heff.network_rule (P := fun network => network.raft = h.network.raft) rfl
    (fun _ _ _ hraft => hraft) (fun _ _ hraft => hraft) (fun raft hregister => absurd hregister (he raft))
    (fun _ => rfl) (fun _ _ _ _ _ => rfl) (fun msg _ => ?_) (fun _ _ => rfl)
  rw [Network.handleNodeStatusChange_eq]

theorem RegistersRaft.raft_isSome {h h' : Host} {raft : RaftAddr} (heff : h.RegistersRaft raft h') :
    h'.network.raft.isSome := by
  obtain ⟨nodeRef, -, heff⟩ := heff
  split at heff
  · split at heff <;> rw [heff] <;> rfl
  · rw [heff]
    rfl
  · rw [heff]
    rfl

/-- Only `DisconnectNode` removes an entry. -/
theorem Effect.mem_nodes {sha256 : String → String} {h h' : Host} {e : HostEvent} {k : NodeId}
    (heff : h.Effect sha256 e h') (hk : k ∈ h.network.nodes)
    (he : ∀ command, e = .message (.disconnectNode command) → command.id ≠ k) :
    k ∈ h'.network.nodes := by
  refine heff.network_rule (P := fun network => k ∈ network.nodes) hk ?_ (fun _ _ hk => hk)
    (fun _ _ => hk) (fun _ => hk) (fun _ _ _ _ _ => hk) ?_ ?_
  · intro network id nodeRef hk
    exact Std.ExtTreeMap.mem_insert.2 (.inr hk)
  · intro msg _
    rwa [Network.handleNodeStatusChange_eq]
  · intro command hdisconnect
    refine Std.ExtTreeMap.mem_erase.2 ⟨?_, hk⟩
    simpa using he command hdisconnect

end Host

end RaftScaffold
