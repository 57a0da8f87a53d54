import RaftScaffold.Network.Delegation
import RaftScaffold.Network.OwnNode
import RaftScaffold.Network.RoleHistory
import RaftScaffold.Network.Started
import RaftScaffold.Raft.Gate
import RaftScaffold.Raft.System

set_option autoImplicit false

/-! # What can crash a process

The sources panic in many places: on a transition of the lifecycle that is refused, on a node that goes back to
`Initialized`, on a configuration change for a remote node, on an absent info or address of the own node, on a
reply that does not decode, on a snapshot for a node that is not started. Most of these are unreachable, whatever
a process meets.

Four are not (`serve_panics_iff`). `RegisterRaft` panics once the network has been told to disconnect itself, a
remote node panics on an entry that cannot be serialized and on a reply that is not JSON, a query for the leader
panics when it has no attempts left, and a snapshot when it is forwarded to a node that is not started. The last
happens if it is for the own node before the Raft actor is registered, or for a node that is removed before the
snapshot is forwarded (`installSnapshot_panics_iff`). -/

namespace RaftScaffold

open Transition

/-! ## Actors of nodes -/

theorem orPanic_eq_panicked {α : Type} {r : Except Panic α} {p : Panic} :
    orPanic r = .error (.panicked p) ↔ r = .error p := by
  cases r <;> simp [orPanic, Except.mapError]

/-- A remote proximity panics on this exchange: the request cannot be made, or the reply is not JSON. -/
def RpcCrashes : Except Panic (Except Transport.ClientError Unit) → Prop
  | .error _ => True
  | .ok (.error err) => err.isSerialization = true
  | .ok (.ok _) => False

namespace NodeActor

/-- The events on which an actor panics. -/
def Crashes (self : NodeActor) : NodeEvent → Prop
  | .changeClusterConfig _ => self.stopped = false ∧ ∃ remote, self.node.proximity = .remoteNode remote
  | .raftRpc exchange =>
      self.stopped = false ∧ RpcCrashes exchange ∧ ∃ remote, self.node.proximity = .remoteNode remote
  | _ => False

theorem logRaftProtocolError_eq_error (remote : RemoteNode) {err : Transport.ClientError} :
    (∃ p, remote.logRaftProtocolError err = .error p) ↔ err.isSerialization = true := by
  unfold RemoteNode.logRaftProtocolError
  cases hser : err.isSerialization with
  | true => simp [Transport.ClientError.isTimeout_of_isSerialization hser]
  | false => split <;> simp

theorem raftRpc_panics_iff (a : NodeActor) (exchange : Except Panic (Except Transport.ClientError Unit)) :
    (∃ p, a.raftRpc exchange = .error p) ↔
      RpcCrashes exchange ∧ ∃ remote, a.node.proximity = .remoteNode remote := by
  unfold raftRpc
  cases a.node.proximity with
  | localNode node => simp
  | remoteNode remote =>
      rcases exchange with panic | err | u
      · simp [RpcCrashes, bind, Except.bind]
      · simp only [RpcCrashes, ← logRaftProtocolError_eq_error remote, bind, Except.bind]
        cases remote.logRaftProtocolError err <;> simp
      · simp [RpcCrashes, bind, Except.bind]

/-- **What makes an actor panic**, as long as its status is still `initialized`. -/
theorem step_panics_iff {a : NodeActor} (hs : a.node.status = .initialized) (e : NodeEvent) :
    (∃ p, a.step e = .error (.panicked p)) ↔ a.Crashes e := by
  unfold step
  cases hstopped : a.stopped with
  | true => cases e <;> simp [Crashes, hstopped]
  | false =>
      simp only [Bool.false_eq_true, if_false]
      cases e with
      | connect exchange =>
          simp only [Crashes, iff_false]
          split
          · simp
          · rintro ⟨p, hp⟩
            rw [orPanic_eq_panicked, handleConnect_eq _ _ (by exact hs)] at hp
            cases hp
      | connected =>
          simp only [Crashes, iff_false]
          split <;> simp [handleConnectResult, applyStatusChange_eq, orPanic_eq_panicked]
      | retry =>
          simp only [Crashes, iff_false]
          split <;> simp
      | disconnect => simp [Crashes, disconnect_eq a hs, orPanic_eq_panicked]
      | updateProximity proximity => simp [Crashes]
      | changeClusterConfig command =>
          cases hprox : a.node.proximity with
          | localNode node =>
              simp [Crashes, hprox, orPanic_eq_panicked, changeClusterConfig, Proximity.changeClusterConfig,
                bind, Except.bind, Except.map]
          | remoteNode node =>
              simp [Crashes, hstopped, hprox, orPanic_eq_panicked, changeClusterConfig,
                Proximity.changeClusterConfig, bind, Except.bind, Except.map]
      | raftRpc exchange => simp only [Crashes, hstopped, orPanic_eq_panicked, raftRpc_panics_iff, true_and]
      | stopping => simp [Crashes, disconnect_eq a hs, orPanic_eq_panicked, Except.map]

end NodeActor

/-! ## The lifecycle -/

/-- Metrics are handled, unless the status is `Down`. -/
theorem NetworkState.advanceStateOnRaftStatus_ok {s : NetworkState} (hdown : s.status ≠ .down)
    (hlog : s.log ≠ []) (now : DateTime) (m : RaftMetrics) :
    ∃ s', s.advanceStateOnRaftStatus now m = .ok s' := by
  rw [advanceStateOnRaftStatus_eq]
  cases hreq : requestedStatus s.status m.state with
  | none => exact ⟨s, rfl⟩
  | some next =>
      have hcheck := (checkNextStatus_requested s m.state next hreq).2 fun h => hdown h.1
      obtain ⟨s', hadv⟩ := advance_of_checkNextStatus now hcheck hlog
      exact ⟨s', doAdvanceState_eq_ok.2 ⟨_, hadv⟩⟩

namespace Host

theorem Reachable.advanceStateOnRaftStatus_ok {sha256 : String → String} {h : Host}
    (hr : Reachable sha256 h) (now : DateTime) (m : RaftMetrics) :
    ∃ s', h.network.state.advanceStateOnRaftStatus now m = .ok s' := by
  obtain ⟨start, id, info, ring, es, hrun⟩ := hr
  have hfollows := followsRoles_of_runs hrun
  -- the phases of the lifecycle do without `Down`
  have hdown : h.network.state.status ≠ .down := by
    rw [hfollows.1.status_eq]
    cases Phase.after (rolesSeen es) <;> decide
  have hlog : h.network.state.log ≠ [] := by
    intro hnil
    have hstatuses := hfollows.1.1
    rw [hnil] at hstatuses
    cases hphase : Phase.after (rolesSeen es) <;> rw [hphase] at hstatuses <;> cases hstatuses
  exact NetworkState.advanceStateOnRaftStatus_ok hdown hlog now m

/-! ## The process -/

/-- The events on which a process panics. -/
def Crashes (self : Host) : HostEvent → Prop
  | .message (.registerRaft _) => self.network.id ∉ self.network.nodes
  | .node addr (.raftRpc exchange) =>
      RpcCrashes exchange ∧ ∃ actor remote, self.actorAt addr = some actor ∧ actor.stopped = false ∧
        actor.node.proximity = .remoteNode remote
  | .wake n timer => timer = .ok () ∧ ∃ msg, self.leaderQueries[n]? = some msg ∧ msg.attempts = 0
  | .forward n => ∃ msg, self.snapshots[n]? = some msg ∧ self.network.getNode msg.target = none
  | _ => False

theorem stepNode_panics_iff {h : Host} (hw : WellFormed h) {addr : Addr} {event : NodeEvent} :
    (∃ p, h.stepNode addr event = .error (.panicked p)) ↔
      ∃ actor, h.actorAt addr = some actor ∧ actor.Crashes event := by
  unfold stepNode
  cases hactor : h.actorAt addr with
  | none => simp
  | some actor =>
      simp only [Option.some.injEq, exists_eq_left', ← NodeActor.step_panics_iff (hw.initialized addr actor hactor)]
      cases actor.step event <;> simp [bind, Except.bind]

theorem handle_panics_iff {sha256 : String → String} {h : Host} (hr : Reachable sha256 h) (msg : NetworkMsg) :
    (∃ p, h.handle msg = .error p) ↔ h.Crashes (.message msg) := by
  cases msg with
  | registerRaft raft =>
      show _ ↔ h.network.id ∉ h.network.nodes
      by_cases hmem : h.network.id ∈ h.network.nodes
      · obtain ⟨nodeRef, hlookup⟩ := (NodeTable.mem_iff _ _).1 hmem
        refine iff_of_false ?_ (fun hnot => hnot hmem)
        rintro ⟨p, hp⟩
        exact handle_registerRaft_ne_error hlookup raft p hp
      · have hlookup : h.network.nodes[h.network.id]? = none := by
          rw [← Option.not_isSome_iff_eq_none, ← Std.ExtTreeMap.mem_iff_isSome_getElem?]
          exact hmem
        exact iff_of_true (by simp [handle, handleRegisterRaft, hlookup, Except.map]) hmem
  | raftMetrics now metrics =>
      obtain ⟨state, hstate⟩ := hr.advanceStateOnRaftStatus_ok now metrics
      simp [Crashes, handle, Network.handleRaftMetrics, hstate, bind, Except.bind, Except.map]
  | bindEndpoint startServer => simp [Crashes, handle]
  | query query => simp [Crashes, handle]
  | handleNodeStatusChange msg => simp [Crashes, handle]
  | connectNode command => simp [Crashes, handle_connectNode]
  | disconnectNode command => simp [Crashes, handle]

/-- A query that wakes up panics when it has no attempts left. -/
theorem afterDelay_panics_iff (timer : Except TimerError Unit) (msg : GetCurrentLeader) :
    (∃ p, LeaderQuery.afterDelay timer msg = .error p) ↔ timer = .ok () ∧ msg.attempts = 0 := by
  cases timer with
  | error err => simp [LeaderQuery.afterDelay]
  | ok u =>
      unfold LeaderQuery.afterDelay GetCurrentLeader.retry
      have hleft : 0 < msg.attempts ↔ msg.attempts ≠ 0 := UInt8.pos_iff_ne_zero
      by_cases hzero : msg.attempts = 0
      · simp [hzero]
      · simp [hleft.2 hzero, hzero]

/-- **What makes a process panic**, in any state that it reaches. -/
theorem step_panics_iff {sha256 : String → String} {h : Host} (hr : Reachable sha256 h) (e : HostEvent) :
    (∃ p, h.step sha256 e = .error (.panicked p)) ↔ h.Crashes e := by
  have hw := hr.wellFormed
  cases e with
  | configureWith seeds => simp [Crashes, step]
  | started => simp [Crashes, step, orPanic_eq_panicked, started_eq]
  | message msg =>
      simp only [step, orPanic_eq_panicked]
      exact handle_panics_iff hr msg
  | delegate n =>
      simp only [Crashes, iff_false]
      rintro ⟨p, hp⟩
      simp only [step] at hp
      split at hp
      · cases hp
      · split at hp <;> cases hp
  | deliver n =>
      simp only [Crashes, iff_false, step]
      cases hmsg : h.outbox[n]? with
      | none => simp
      | some entry =>
          obtain ⟨addr, msg⟩ := entry
          have hw' : WellFormed { h with outbox := h.outbox.eraseIdx n } :=
            hw.of_actors rfl id rfl (fun _ _ => .inl) fun _ _ hmem => .inl (List.mem_of_mem_eraseIdx hmem)
          rw [stepNode_panics_iff hw']
          rintro ⟨actor, hactor, hcrash⟩
          cases msg with
          | updateProximity proximity => exact hcrash
          | changeClusterConfig command =>
              -- the configuration changes under way all go to the local node
              obtain ⟨actor', raft, hactor', hprox⟩ :=
                (hr.delegatesLocally addr command (List.mem_of_getElem? hmsg)).proximity
              obtain rfl := Option.some.inj (hactor'.symm.trans hactor)
              obtain ⟨-, remote, hremote⟩ := hcrash
              rw [hprox] at hremote
              cases hremote
  | node addr event =>
      simp only [step]
      cases hown : event.isOwn with
      | false =>
          cases event with
          | updateProximity proximity => simp [Crashes]
          | changeClusterConfig command => simp [Crashes]
          | _ => cases hown
      | true =>
          rw [if_pos rfl, stepNode_panics_iff hw]
          cases event with
          | raftRpc exchange =>
              simp only [Crashes, NodeActor.Crashes]
              constructor
              · rintro ⟨actor, hactor, hrunning, hexchange, remote, hremote⟩
                exact ⟨hexchange, actor, remote, hactor, hrunning, hremote⟩
              · rintro ⟨hexchange, actor, remote, hactor, hrunning, hremote⟩
                exact ⟨actor, hactor, hrunning, hexchange, remote, hremote⟩
          | changeClusterConfig command => cases hown
          | _ => simp [Crashes, NodeActor.Crashes]
  | wake n timer =>
      simp only [Crashes, step]
      cases h.leaderQueries[n]? with
      | none => simp
      | some msg =>
          simp only [Option.some.injEq, exists_eq_left', ← afterDelay_panics_iff]
          cases LeaderQuery.afterDelay timer msg <;> simp [orPanic, Except.mapError, bind, Except.bind]
  | forward n =>
      simp only [Crashes, step]
      cases h.snapshots[n]? with
      | none => simp
      | some msg =>
          simp only [Option.some.injEq, exists_eq_left']
          cases h.network.getNode msg.target <;>
            simp [unwrap, orPanic, Except.mapError, bind, Except.bind]

/-- In a started network, a node that is not started is not in the table, or it is the own node and waits for the
    Raft actor. -/
theorem StartedReachable.getNode_eq_none {sha256 : String → String} {h : Host}
    (hs : StartedReachable sha256 h) (k : NodeId) :
    h.network.getNode k = none ↔
      k ∉ h.network.nodes ∨ (k = h.network.id ∧ h.network.raft = none) := by
  unfold Network.getNode
  cases hlookup : h.network.nodes[k]? with
  | none =>
      refine iff_of_true rfl (.inl ?_)
      rw [Std.ExtTreeMap.mem_iff_isSome_getElem?, hlookup]
      simp
  | some nodeRef =>
      have hmem : k ∈ h.network.nodes := (NodeTable.mem_iff _ _).2 ⟨nodeRef, hlookup⟩
      have hentry := hs.reachable.wellFormed.entries k nodeRef hlookup
      rw [Option.bind_some]
      constructor
      · intro haddr
        refine .inr ?_
        by_contra hnot
        -- otherwise the table is complete there
        have hsome := hs.complete k nodeRef hlookup fun hown =>
          Option.isSome_iff_ne_none.2 fun hnone => hnot ⟨hown, hnone⟩
        rw [haddr] at hsome
        cases hsome
      · rintro (hnot | ⟨hown, hnone⟩)
        · exact absurd hmem hnot
        · by_contra haddr
          have hraft := hentry.raft hown (Option.isSome_iff_ne_none.2 haddr)
          rw [hnone] at hraft
          cases hraft

/-- **When a snapshot crashes a network.** For every state of a started network and whatever it handles before it
    forwards the snapshot, it panics if and only if it accepts the snapshot and then finds that the target has been
    removed, or that the target is itself and no Raft actor is registered. -/
theorem installSnapshot_panics_iff (sha256 : String → String) (h h' : Host) (es : List HostEvent)
    (hs : StartedReachable sha256 h) (hruntime : ∀ e ∈ es, e.IsRuntime)
    (hrun : Runs (Step sha256) h es h') (msg : InstallSnapshotRequest) :
    (∃ p, h.network.handleInstallSnapshot h'.network msg = .error p) ↔
      h.network.Passes msg.target msg.leaderId ∧
        (msg.target ∉ h'.network.nodes ∨ (msg.target = h'.network.id ∧ h'.network.raft = none)) := by
  have hs' : StartedReachable sha256 h' := by
    obtain ⟨h₀, es₀, hstarted, hruntime₀, hrun₀⟩ := hs
    refine ⟨h₀, es₀ ++ es, hstarted, fun e he => ?_, hrun₀.append hrun⟩
    rcases List.mem_append.1 he with hbefore | hafter
    · exact hruntime₀ e hbefore
    · exact hruntime e hafter
  rw [← hs'.getNode_eq_none]
  by_cases hpass : h.network.Passes msg.target msg.leaderId
  · rw [Network.handleInstallSnapshot_of_passes hpass]
    cases h'.network.getNode msg.target <;> simp [unwrap, Except.map, hpass]
  · simp [Network.handleInstallSnapshot_of_not_passes hpass, hpass]

/-- A snapshot for a node that is removed before the snapshot is forwarded. -/
theorem installSnapshot_panics_removed :
    ∃ p, sampleJoined.network.handleInstallSnapshot
      (sampleRun [.started, .message (.connectNode { id := 2, info := sampleInfo }),
        .message (.disconnectNode { id := 2 })]).network (emptySnapshot 2 1) = .error p := by
  have hstarted : JustStarted (fun _ => "") (sampleRun [.started]) :=
    ⟨0, 1, sampleInfo, Ring.new 10, [], runs_sampleRun rfl⟩
  have hs : StartedReachable (fun _ => "") sampleJoined :=
    ⟨_, [.message (.connectNode { id := 2, info := sampleInfo })], hstarted, by decide,
      runs_finalState (s := sampleRun [.started]) rfl⟩
  refine (installSnapshot_panics_iff (fun _ => "") sampleJoined _ [.message (.disconnectNode { id := 2 })] hs
    (by decide) (runs_finalState rfl) (emptySnapshot 2 1)).2 ⟨⟨by decide, by decide, by decide⟩, .inl ?_⟩
  decide

end Host

end RaftScaffold
