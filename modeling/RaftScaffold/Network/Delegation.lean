import RaftScaffold.Network.NodeTable

set_option autoImplicit false

/-! # Who receives a configuration change

`Handler<ConnectNode>` delegates a `ChangeClusterConfig` to the leader, and
`RemoteNode::change_cluster_config` is `unimplemented!()`. It is never called: `leader_delegate` gives
an address only if the leader is this network, and then it is the address stored under the own id, whose
actor is local (`Host.WellFormed`). The actor stays local while the message is under way, whatever
happens to the table meanwhile (`Host.Keeps`). -/

namespace RaftScaffold

open Transition

namespace Host

/-- The address is that of an actor of the local node. -/
def IsLocalAddr (h : Host) (addr : Addr) : Prop :=
  ∃ actor info, h.actorAt addr = some actor ∧ Serves h.network.id h.network.id info actor

/-- Every configuration change under way goes to the local node. -/
def DelegatesLocally (h : Host) : Prop :=
  ∀ addr command, (addr, .changeClusterConfig command) ∈ h.outbox → h.IsLocalAddr addr

theorem IsLocalAddr.proximity {h : Host} {addr : Addr} (hl : h.IsLocalAddr addr) :
    ∃ actor raft, h.actorAt addr = some actor ∧
      actor.node.proximity = .localNode { id := h.network.id, raft } := by
  obtain ⟨actor, info, hactor, hserves⟩ := hl
  obtain ⟨raft, hprox⟩ := hserves.local
  exact ⟨actor, raft, hactor, hprox⟩

theorem IsLocalAddr.keeps {h h' : Host} {addr : Addr} (hl : h.IsLocalAddr addr) (hk : Keeps h h') :
    h'.IsLocalAddr addr := by
  obtain ⟨actor, info, hactor, hserves⟩ := hl
  obtain ⟨actor', hactor', -, hserves'⟩ := hk.actors addr actor hactor
  refine ⟨actor', info, hactor', ?_⟩
  rw [hk.id]
  exact hserves' _ _ hserves

/-- `leader_delegate` gives out the address of the local node only. -/
theorem WellFormed.leaderDelegate_local {h : Host} (hw : WellFormed h) {addr : Addr}
    (hleader : h.network.leaderDelegate = .ok addr) : h.IsLocalAddr addr := by
  rcases hw.leaderDelegate_cases with ⟨-, hdelegate⟩ | ⟨lref, info, -, -, hcases⟩
  · rw [hdelegate] at hleader
    cases hleader
  · rcases hcases with ⟨-, hdelegate⟩ | ⟨-, -, hdelegate⟩ | ⟨-, addr', actor, -, hactor, hserves, hdelegate⟩
    · rw [hdelegate] at hleader
      cases hleader
    · rw [hdelegate] at hleader
      cases hleader
    · rw [hdelegate] at hleader
      obtain rfl := Except.ok.inj hleader
      exact ⟨actor, info, hactor, hserves⟩

/-- Only delegations put a configuration change in the outbox. -/
theorem Effect.outbox {sha256 : String → String} {h h' : Host} {e : HostEvent}
    (heff : h.Effect sha256 e h') (hw : WellFormed h) (he : ∀ n, e ≠ .delegate n) {addr : Addr}
    {command : ChangeClusterConfig} (hmem : (addr, .changeClusterConfig command) ∈ h'.outbox) :
    (addr, .changeClusterConfig command) ∈ h.outbox := by
  cases e with
  | configureWith seeds => rw [heff] at hmem; exact hmem
  | started =>
      have hsame : h'.outbox = h.outbox := by
        rw [heff]
        refine List.foldlRecOn (motive := fun h' : Host => h'.outbox = h.outbox) _ _ rfl
          fun h' hsame entry _ => ?_
        unfold startEntry
        split
        · exact hsame
        · exact hsame
      rwa [hsame] at hmem
  | message msg =>
      cases msg with
      | registerRaft raft =>
          obtain ⟨_, info, -, -, ⟨addr', -, rfl⟩ | ⟨-, rfl⟩⟩ := hw.registersRaft_cases heff
          · rcases List.mem_append.1 hmem with hold | hnew
            · exact hold
            · cases List.mem_singleton.1 hnew
          · exact hmem
      | raftMetrics now metrics => obtain ⟨state, -, rfl⟩ := heff; exact hmem
      | bindEndpoint startServer => obtain ⟨server, rfl⟩ := heff; exact hmem
      | query query => obtain ⟨_, _, rfl⟩ := heff; exact hmem
      | handleNodeStatusChange msg => rw [heff] at hmem; exact hmem
      | connectNode command' =>
          obtain ⟨delegations, rfl⟩ := heff
          unfold connected at hmem
          split at hmem
          · exact hmem
          · exact hmem
      | disconnectNode command' => rw [heff] at hmem; exact hmem
  | delegate n => exact absurd rfl (he n)
  | deliver n =>
      obtain ⟨_, _, _, _, _, _, _, rfl⟩ := heff
      exact List.mem_of_mem_eraseIdx hmem
  | node addr' event => obtain ⟨_, _, _, _, _, rfl⟩ := heff; exact hmem
  | wake n timer => obtain ⟨_, _, rfl⟩ := heff; exact hmem
  | forward n => obtain ⟨_, _, rfl⟩ := heff; exact hmem

theorem delegatesLocally_step {sha256 : String → String} {h h' : Host} {e : HostEvent}
    (hw : WellFormed h) (hd : DelegatesLocally h) (hstep : Step sha256 h e h') :
    DelegatesLocally h' := by
  have heff := step_cases hstep
  have hkeeps := heff.keeps hw
  intro addr command hmem
  by_cases he : ∃ n, e = .delegate n
  · obtain ⟨n, rfl⟩ := he
    obtain ⟨command', -, ⟨leader, hleader, rfl⟩ | ⟨err, -, rfl⟩⟩ := step_delegate hstep
    · rcases List.mem_append.1 hmem with hold | hnew
      · exact (hd addr command hold).keeps hkeeps
      · -- the new message goes to the address that `leader_delegate` has just given out
        obtain ⟨rfl, -⟩ := Prod.mk.inj (List.mem_singleton.1 hnew)
        exact (hw.leaderDelegate_local hleader).keeps hkeeps
    · exact (hd addr command hmem).keeps hkeeps
  · have hold := heff.outbox hw (fun n heq => he ⟨n, heq⟩) hmem
    exact (hd addr command hold).keeps hkeeps

theorem Reachable.delegatesLocally {sha256 : String → String} {h : Host} (hr : Reachable sha256 h) :
    DelegatesLocally h := by
  obtain ⟨now, id, info, ring, es, hrun⟩ := hr
  refine (hrun.invariant (I := fun h => WellFormed h ∧ DelegatesLocally h) ?_
    ⟨wellFormed_new now id info ring, fun addr command hmem => by cases hmem⟩).2
  rintro h e h' ⟨hw, hd⟩ hstep
  exact ⟨(step_cases hstep).wellFormed hw, delegatesLocally_step hw hd hstep⟩

/-- A local actor that handles a configuration change submits it, and does not panic. -/
theorem step_changeClusterConfig_local {actor : NodeActor} {localNode : LocalNode}
    (hprox : actor.node.proximity = .localNode localNode) (command : ChangeClusterConfig) (p : Panic) :
    actor.step (.changeClusterConfig command) ≠ .error (.panicked p) := by
  have hok : actor.changeClusterConfig command =
      .ok ({ actor with proposals := actor.proposals ++ [command] }, .ok ()) := by
    simp only [NodeActor.changeClusterConfig, hprox, Proximity.changeClusterConfig]
    rfl
  unfold NodeActor.step
  split
  · simp
  · simp [hok, Except.map, orPanic, Except.mapError]

/-- **Configuration changes reach the local node only.** In every state that a network and its actors
    reach, before and after it is started, a `ChangeClusterConfig` that is delivered next goes to an
    actor whose proximity is the local node of the network's own id, and its delivery does not panic. -/
theorem changeClusterConfig_local (sha256 : String → String) (h : Host) (hr : Reachable sha256 h)
    (n : Nat) (addr : Addr) (command : ChangeClusterConfig)
    (hmsg : h.outbox[n]? = some (addr, .changeClusterConfig command)) :
    (∃ actor raft, h.actorAt addr = some actor ∧
      actor.node.proximity = .localNode { id := h.network.id, raft }) ∧
    ∀ p, h.step sha256 (.deliver n) ≠ .error (.panicked p) := by
  obtain ⟨actor, raft, hactor, hprox⟩ :=
    (hr.delegatesLocally addr command (List.mem_of_getElem? hmsg)).proximity
  refine ⟨⟨actor, raft, hactor, hprox⟩, fun p hpanic => ?_⟩
  have hlookup : ({ h with outbox := h.outbox.eraseIdx n } : Host).actorAt addr = some actor := hactor
  simp only [step, hmsg, stepNode, hlookup, NodeMsg.event] at hpanic
  cases hstep : actor.step (.changeClusterConfig command) with
  | ok actor' => simp [hstep, bind, Except.bind] at hpanic
  | error halt =>
      simp only [hstep, bind, Except.bind, Except.error.injEq] at hpanic
      rw [hpanic] at hstep
      exact step_changeClusterConfig_local hprox command p hstep

/-- The leader's own node is removed from the table while the change for node 2 is on its way to it. -/
theorem changeClusterConfig_local_removed :
    let h := sampleRun [.started, .message (.registerRaft ⟨0⟩),
      .message (.raftMetrics 1 { nonVoterMetrics with state := .leader, currentLeader := some 1 }),
      .message (.connectNode { id := 2, info := sampleInfo }), .delegate 0,
      .message (.disconnectNode { id := 1 })]
    ∃ actor raft, h.actorAt ⟨0⟩ = some actor ∧
      actor.node.proximity = .localNode { id := h.network.id, raft } :=
  (changeClusterConfig_local (fun _ => "") _ ⟨0, 1, sampleInfo, Ring.new 10, _, runs_sampleRun rfl⟩ 0 ⟨0⟩
    (ChangeClusterConfig.newToAdd [2]) (by decide)).1

end Host

end RaftScaffold
