import RaftScaffold.Network.NodeTable

set_option autoImplicit false

/-! # Routing the Raft RPCs

`raft/network.rs`: the `Network` forwards a Raft RPC to the `Node` registered for its target, unless the target or
the sender is isolated. The handlers of `AppendEntries` and `Vote` decide and forward at once. The one of
`InstallSnapshot` checks in `ignore_in_isolation` that the target is a key of the table, and unwraps its address
when the future is polled; by then other messages may have been handled.

So the three take the same decision exactly when a target that passes the check has a started node, at the
check and at the unwrap (`Host.oneGate_iff`). -/

namespace RaftScaffold

open Transition

namespace Network

/-- `Handler<AppendEntriesRequest>`: the node it forwards to, or `Err(())`. -/
def handleAppendEntries {D : Type} (self : Network) (msg : AppendEntriesRequest D) :
    Except Unit Addr :=
  match self.getNode msg.target with
  | some node =>
      if self.state.isIsolatedNode msg.target || self.state.isIsolatedNode msg.leaderId then .error ()
      else .ok node
  | none => .error ()

/-- `Handler<VoteRequest>`. -/
def handleVote (self : Network) (msg : VoteRequest) : Except Unit Addr :=
  match self.getNode msg.target with
  | some node =>
      if self.state.isIsolatedNode msg.target || self.state.isIsolatedNode msg.candidateId then
        .error ()
      else .ok node
  | none => .error ()

/-- `Handler<InstallSnapshotRequest>`: `accepted` is the network that accepts the message, `polled` the one
    that the future finds. -/
def handleInstallSnapshot (accepted polled : Network) (msg : InstallSnapshotRequest) :
    Except Panic (Except Unit Addr) :=
  match accepted.ignoreInIsolation msg.target msg.leaderId with
  | .error _ => .ok (.error ())
  -- the target is a key of the table, but it may have no started node
  | .ok _ => (unwrap (polled.getNode msg.target)).map .ok

/-! ## The two forms of the gate -/

/-- The gate in the form of `AppendEntries` and `Vote`. -/
def gate (self : Network) (target sender : NodeId) : Except Unit Addr :=
  match self.getNode target with
  | some node =>
      if self.state.isIsolatedNode target || self.state.isIsolatedNode sender then .error ()
      else .ok node
  | none => .error ()

theorem handleAppendEntries_eq {D : Type} (network : Network) (msg : AppendEntriesRequest D) :
    network.handleAppendEntries msg = network.gate msg.target msg.leaderId := rfl

theorem handleVote_eq (network : Network) (msg : VoteRequest) :
    network.handleVote msg = network.gate msg.target msg.candidateId := rfl

theorem gate_eq_ok {network : Network} {target sender : NodeId} {addr : Addr} :
    network.gate target sender = .ok addr ↔
      network.getNode target = some addr ∧ target ∉ network.state.isolatedNodes ∧
        sender ∉ network.state.isolatedNodes := by
  unfold gate
  cases network.getNode target with
  | none => simp
  | some node =>
      by_cases hisolated : target ∈ network.state.isolatedNodes ∨ sender ∈ network.state.isolatedNodes
      · simp [NetworkState.isIsolatedNode, hisolated]
        tauto
      · simp [NetworkState.isIsolatedNode, hisolated]
        tauto

/-- `ignore_in_isolation` lets the message pass: the target is a key of the table, started or not. -/
def Passes (self : Network) (target sender : NodeId) : Prop :=
  target ∈ self.nodes ∧ target ∉ self.state.isolatedNodes ∧ sender ∉ self.state.isolatedNodes

theorem ignoreInIsolation_eq_ok {network : Network} {target sender : NodeId} :
    network.ignoreInIsolation target sender = .ok () ↔ network.Passes target sender := by
  unfold ignoreInIsolation Passes
  simp only [NetworkState.isIsolatedNode, Bool.or_eq_true, decide_eq_true_eq]
  split
  · next h => simp only [reduceCtorEq, false_iff]; tauto
  · next h => simp only [true_iff]; tauto

/-- A message that passes is forwarded if the target is started when the future runs, and panics if not. -/
theorem handleInstallSnapshot_of_passes {accepted : Network} {msg : InstallSnapshotRequest}
    (h : accepted.Passes msg.target msg.leaderId) (polled : Network) :
    accepted.handleInstallSnapshot polled msg = (unwrap (polled.getNode msg.target)).map .ok := by
  simp only [handleInstallSnapshot, ignoreInIsolation_eq_ok.2 h]

theorem handleInstallSnapshot_of_not_passes {accepted : Network} {msg : InstallSnapshotRequest}
    (h : ¬ accepted.Passes msg.target msg.leaderId) (polled : Network) :
    accepted.handleInstallSnapshot polled msg = .ok (.error ()) := by
  cases hignore : accepted.ignoreInIsolation msg.target msg.leaderId with
  | ok u => exact absurd (ignoreInIsolation_eq_ok.1 hignore) h
  | error u => simp only [handleInstallSnapshot, hignore]

theorem handleInstallSnapshot_eq_ok {accepted polled : Network} {msg : InstallSnapshotRequest}
    {addr : Addr} :
    accepted.handleInstallSnapshot polled msg = .ok (.ok addr) ↔
      accepted.Passes msg.target msg.leaderId ∧ polled.getNode msg.target = some addr := by
  by_cases hpass : accepted.Passes msg.target msg.leaderId
  · rw [handleInstallSnapshot_of_passes hpass]
    cases polled.getNode msg.target <;> simp [unwrap, Except.map, hpass]
  · simp [handleInstallSnapshot_of_not_passes hpass, hpass]

theorem handleInstallSnapshot_eq_error {accepted polled : Network} {msg : InstallSnapshotRequest} :
    accepted.handleInstallSnapshot polled msg = .ok (.error ()) ↔
      ¬ accepted.Passes msg.target msg.leaderId := by
  by_cases hpass : accepted.Passes msg.target msg.leaderId
  · rw [handleInstallSnapshot_of_passes hpass]
    cases polled.getNode msg.target <;> simp [unwrap, Except.map, hpass]
  · simp [handleInstallSnapshot_of_not_passes hpass, hpass]

/-- A started node is a key of the table. -/
theorem mem_nodes_of_getNode {network : Network} {target : NodeId}
    (h : (network.getNode target).isSome) : target ∈ network.nodes := by
  rw [Std.ExtTreeMap.mem_iff_isSome_getElem?]
  unfold getNode at h
  cases hlookup : network.nodes[target]? with
  | none => rw [hlookup] at h; cases h
  | some nodeRef => rfl

end Network

namespace Host

/-! ## One gate for the three RPCs -/

/-- The address is the one registered for `target`, and an actor for `target` runs there. -/
def RegisteredAt (h : Host) (target : NodeId) (addr : Addr) : Prop :=
  h.network.getNode target = some addr ∧
    ∃ actor, h.actorAt addr = some actor ∧ actor.node.id = target

/-- The target's node is started and neither end is isolated. -/
def GateOpen (h : Host) (target sender : NodeId) : Prop :=
  (h.network.getNode target).isSome ∧ target ∉ h.network.state.isolatedNodes ∧
    sender ∉ h.network.state.isolatedNodes

/-- What the three handlers promise for a message that `accepted` accepts and whose future `polled` runs: if
    the gate is open each forwards to the node registered for the target, else each resolves to `Err(())`;
    none panics. -/
structure OneGate (accepted polled : Host) (target sender : NodeId) : Prop where
  forward : GateOpen accepted target sender →
    (∀ (D : Type) (msg : AppendEntriesRequest D), msg.target = target → msg.leaderId = sender →
      ∃ addr, accepted.network.handleAppendEntries msg = .ok addr ∧
        RegisteredAt accepted target addr) ∧
    (∀ msg : VoteRequest, msg.target = target → msg.candidateId = sender →
      ∃ addr, accepted.network.handleVote msg = .ok addr ∧ RegisteredAt accepted target addr) ∧
    ∀ msg : InstallSnapshotRequest, msg.target = target → msg.leaderId = sender →
      ∃ addr, accepted.network.handleInstallSnapshot polled.network msg = .ok (.ok addr) ∧
        RegisteredAt polled target addr
  reject : ¬ GateOpen accepted target sender →
    (∀ (D : Type) (msg : AppendEntriesRequest D), msg.target = target → msg.leaderId = sender →
      accepted.network.handleAppendEntries msg = .error ()) ∧
    (∀ msg : VoteRequest, msg.target = target → msg.candidateId = sender →
      accepted.network.handleVote msg = .error ()) ∧
    ∀ msg : InstallSnapshotRequest, msg.target = target → msg.leaderId = sender →
      accepted.network.handleInstallSnapshot polled.network msg = .ok (.error ())

theorem gateOpen_iff {h : Host} {target sender : NodeId} :
    GateOpen h target sender ↔ ∃ addr, h.network.gate target sender = .ok addr := by
  simp only [Network.gate_eq_ok, exists_and_right, GateOpen, Option.isSome_iff_exists]

theorem gate_of_not_open {h : Host} {target sender : NodeId} (hclosed : ¬ GateOpen h target sender) :
    h.network.gate target sender = .error () := by
  cases hgate : h.network.gate target sender with
  | error u => rfl
  | ok addr => exact absurd (gateOpen_iff.2 ⟨addr, hgate⟩) hclosed

theorem WellFormed.registeredAt {h : Host} (hw : WellFormed h) {target : NodeId} {addr : Addr}
    (haddr : h.network.getNode target = some addr) : RegisteredAt h target addr := by
  obtain ⟨actor, info, hactor, hid, -⟩ := hw.getNode_serves haddr
  exact ⟨haddr, actor, hactor, hid⟩

theorem GateOpen.passes {h : Host} {target sender : NodeId} (hopen : GateOpen h target sender) :
    h.network.Passes target sender :=
  ⟨Network.mem_nodes_of_getNode hopen.1, hopen.2.1, hopen.2.2⟩

/-- A snapshot with no data. -/
def emptySnapshot (target leaderId : NodeId) : InstallSnapshotRequest :=
  { target, term := 1, leaderId, lastIncludedIndex := 0, lastIncludedTerm := 0, offset := 0, data := [],
    done := true }

/-- **When the three RPCs share one gate.** For every reachable state and whatever is handled between
    accepting a request and running its future, the three handlers take the same decision, and none panics,
    if and only if the target is not in the table, or an end is isolated, or the target's node is started
    both when the request is accepted and when the future runs. -/
theorem oneGate_iff (sha256 : String → String) (h h' : Host) (es : List HostEvent)
    (hr : Reachable sha256 h) (hrun : Runs (Step sha256) h es h') (target sender : NodeId) :
    OneGate h h' target sender ↔
      target ∉ h.network.nodes ∨ target ∈ h.network.state.isolatedNodes ∨
        sender ∈ h.network.state.isolatedNodes ∨
        ((h.network.getNode target).isSome ∧ (h'.network.getNode target).isSome) := by
  have hw := hr.wellFormed
  have hw' := (hr.runs hrun).wellFormed
  constructor
  · intro hgate
    by_cases hopen : GateOpen h target sender
    · obtain ⟨addr, hforward, -⟩ := (hgate.forward hopen).2.2 (emptySnapshot target sender) rfl rfl
      have hlater : h'.network.getNode target = some addr :=
        (Network.handleInstallSnapshot_eq_ok.1 hforward).2
      exact .inr (.inr (.inr ⟨hopen.1, by rw [hlater]; rfl⟩))
    · -- the gate is closed, so the snapshot must have been stopped by `ignore_in_isolation`
      have hreject := (hgate.reject hopen).2.2 (emptySnapshot target sender) rfl rfl
      have hstop : ¬ h.network.Passes target sender := Network.handleInstallSnapshot_eq_error.1 hreject
      simp only [Network.Passes, not_and_or, not_not] at hstop
      exact hstop.imp_right (Or.imp_right .inl)
  · intro hcond
    refine ⟨fun hopen => ?_, fun hclosed => ?_⟩
    · have hpass := hopen.passes
      obtain ⟨addr, hgate⟩ := gateOpen_iff.1 hopen
      have hnow := hw.registeredAt (Network.gate_eq_ok.1 hgate).1
      obtain ⟨addr', haddr'⟩ : ∃ addr', h'.network.getNode target = some addr' := by
        rcases hcond with hnot | hisol | hisol | ⟨-, hlater⟩
        · exact absurd hpass.1 hnot
        · exact absurd hisol hpass.2.1
        · exact absurd hisol hpass.2.2
        · exact Option.isSome_iff_exists.1 hlater
      refine ⟨?_, ?_, ?_⟩
      · rintro D msg rfl rfl
        exact ⟨addr, (Network.handleAppendEntries_eq _ msg).trans hgate, hnow⟩
      · rintro msg rfl rfl
        exact ⟨addr, (Network.handleVote_eq _ msg).trans hgate, hnow⟩
      · rintro msg rfl rfl
        exact ⟨addr', Network.handleInstallSnapshot_eq_ok.2 ⟨hpass, haddr'⟩, hw'.registeredAt haddr'⟩
    · have hgate := gate_of_not_open hclosed
      have hstop : ¬ h.network.Passes target sender := by
        intro hpass
        rcases hcond with hnot | hisol | hisol | ⟨hstarted, -⟩
        · exact hnot hpass.1
        · exact hpass.2.1 hisol
        · exact hpass.2.2 hisol
        · exact hclosed ⟨hstarted, hpass.2⟩
      refine ⟨?_, ?_, ?_⟩
      · rintro D msg rfl rfl
        exact (Network.handleAppendEntries_eq _ msg).trans hgate
      · rintro msg rfl rfl
        exact (Network.handleVote_eq _ msg).trans hgate
      · rintro msg rfl rfl
        exact Network.handleInstallSnapshot_eq_error.2 hstop

/-- The gate for a node that joined, handled in the state that accepts the request. -/
theorem oneGate_joined : OneGate sampleJoined sampleJoined 2 1 :=
  (oneGate_iff (fun _ => "") sampleJoined sampleJoined [] ⟨0, 1, sampleInfo, Ring.new 10, _, runs_sampleRun rfl⟩
    (.nil _) 2 1).2 (.inr (.inr (.inr (by decide))))

/-- A snapshot for the own node of a network that waits for its Raft actor panics. -/
theorem oneGate_fails :
    ¬ ∀ sha256 h h' es, Reachable sha256 h → Runs (Step sha256) h es h' →
      ∀ target sender, OneGate h h' target sender := by
  intro hall
  have hr : Reachable (fun _ => "") sampleJoined :=
    ⟨0, 1, sampleInfo, Ring.new 10, _, runs_sampleRun rfl⟩
  have hgate := hall _ sampleJoined sampleJoined [] hr (.nil _) 1 2
  have hclosed : ¬ GateOpen sampleJoined 1 2 := fun hopen => absurd hopen.1 (by decide)
  exact absurd ((hgate.reject hclosed).2.2 (emptySnapshot 1 2) rfl rfl) (by decide)

end Host

end RaftScaffold
