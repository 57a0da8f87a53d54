import RaftScaffold.Node.Actor
import RaftScaffold.Transition.Runs

set_option autoImplicit false

/-! # What a Node actor's step does

`apply_status_change` sends the new status to the network and stores it nowhere: the field `status` keeps
the value `Node::new` gave it. So every step of a running actor is one of the few effects that
`NodeActor.Effect` lists (`NodeActor.step_cases`), and the invariants of the actor are read off that list.

The effects also show the shape of the connection attempts: one attempt is pending until the first one
succeeds, and none after that (`NodeActor.Pending`). -/

namespace RaftScaffold

open Transition

namespace NodeActor

/-! ## The effect of each event -/

/-- The status that `applyStatusChange` reports. -/
def reportedStatus : NodeStatus → NodeStatus
  | .failure attempts => if 3 < attempts then .disconnected else .failure attempts
  | status => status

theorem applyStatusChange_eq (a : NodeActor) (status : NodeStatus) (h : status ≠ .initialized) :
    a.applyStatusChange status = .ok { a with reports := a.reports ++ [reportedStatus status] } := by
  cases status with
  | initialized => exact absurd rfl h
  | failure attempts =>
      simp only [applyStatusChange, reportedStatus]
      split <;> rfl
  | weaklyConnected => rfl
  | connected => rfl
  | disconnected => rfl

/-- The effects of the events on an actor whose status is still `initialized`. -/
def Effect (a : NodeActor) : NodeEvent → NodeActor → Prop
  | .connect exchange, a' =>
      0 < a.connects ∧
        match a.node.proximity.connect exchange with
        | .ok _ =>
            a' = { a with
              connects := a.connects - 1
              calls := a.calls ++ [.connect]
              reports := a.reports ++ [.weaklyConnected]
              acks := a.acks + 1 }
        | .error _ =>
            a' = { a with
              connects := a.connects - 1
              calls := a.calls ++ [.connect]
              reports := a.reports ++ [.failure 1]
              timers := a.timers + 1 }
  | .connected, a' =>
      0 < a.acks ∧ a' = { a with acks := a.acks - 1, reports := a.reports ++ [.connected] }
  | .retry, a' =>
      0 < a.timers ∧ a' = { a with timers := a.timers - 1, connects := a.connects + 1 }
  | .disconnect, a' => a' = a
  | .updateProximity proximity, a' => a' = a.updateProximity proximity
  | .changeClusterConfig command, a' =>
      (∃ n, a.node.proximity = .localNode n) ∧
        a' = { a with proposals := a.proposals ++ [command] }
  | .raftRpc _, a' => a' = a
  | .stopping, a' => a' = { a with stopped := true }

theorem handleConnect_eq (a : NodeActor) (exchange : Except NodeError Acknowledged)
    (hs : a.node.status = .initialized) :
    a.handleConnect exchange = .ok
      (match a.node.proximity.connect exchange with
        | .ok _ =>
            { a with
              calls := a.calls ++ [.connect]
              reports := a.reports ++ [.weaklyConnected]
              acks := a.acks + 1 }
        | .error _ =>
            { a with
              calls := a.calls ++ [.connect]
              reports := a.reports ++ [.failure 1]
              timers := a.timers + 1 }) := by
  have hconn : a.node.status.isConnected = false := by rw [hs]; rfl
  have hfail : nextFailure a.node.status = .failure 1 := by rw [hs]; rfl
  unfold handleConnect connect
  rw [hconn]
  cases a.node.proximity.connect exchange with
  | ok ack =>
      rw [if_neg (by simp)]
      simp only
      rw [applyStatusChange_eq _ _ (by simp)]
      rfl
  | error err =>
      rw [if_neg (by simp), hfail]
      simp only
      rw [applyStatusChange_eq _ _ (by simp)]
      rfl

theorem disconnect_eq (a : NodeActor) (hs : a.node.status = .initialized) :
    a.disconnect = .ok a := by
  have hconn : a.node.status.isConnected = false := by rw [hs]; rfl
  simp [disconnect, hconn]

theorem raftRpc_eq_ok {a a' : NodeActor} {exchange : Except Panic (Except Transport.ClientError Unit)}
    (h : a.raftRpc exchange = .ok a') : a' = a := by
  unfold raftRpc at h
  split at h
  · exact (Except.ok.inj h).symm
  · obtain ⟨reply, -, h⟩ := bind_eq_ok.1 h
    split at h
    · exact (Except.ok.inj h).symm
    · obtain ⟨-, -, h⟩ := bind_eq_ok.1 h
      exact (Except.ok.inj h).symm

/-- **What a step can do**, for an actor whose status is still `initialized`. -/
theorem step_cases {a a' : NodeActor} {e : NodeEvent} (hs : a.node.status = .initialized)
    (h : a.step e = .ok a') : a.stopped = false ∧ a.Effect e a' := by
  unfold step at h
  split at h
  · cases h
  · next hrunning =>
      refine ⟨by simpa using hrunning, ?_⟩
      cases e with
      | connect exchange =>
          simp only at h
          split at h
          · cases h
          · next hpos =>
              have handled := handleConnect_eq { a with connects := a.connects - 1 } exchange hs
              rw [handled, orPanic_eq_ok] at h
              refine ⟨Nat.pos_of_ne_zero hpos, ?_⟩
              cases hprox : a.node.proximity.connect exchange with
              | ok ack =>
                  rw [hprox] at h
                  exact (Except.ok.inj h).symm
              | error err =>
                  rw [hprox] at h
                  exact (Except.ok.inj h).symm
      | connected =>
          simp only at h
          split at h
          · cases h
          · next hpos =>
              rw [handleConnectResult, applyStatusChange_eq _ _ (by simp), orPanic_eq_ok] at h
              exact ⟨Nat.pos_of_ne_zero hpos, (Except.ok.inj h).symm⟩
      | retry =>
          simp only at h
          split at h
          · cases h
          · next hpos => exact ⟨Nat.pos_of_ne_zero hpos, (Except.ok.inj h).symm⟩
      | disconnect =>
          simp only [disconnect_eq a hs, orPanic_eq_ok] at h
          exact (Except.ok.inj h).symm
      | updateProximity proximity => exact (Except.ok.inj h).symm
      | changeClusterConfig command =>
          simp only [orPanic_eq_ok, changeClusterConfig, Proximity.changeClusterConfig] at h
          cases hprox : a.node.proximity with
          | localNode n =>
              rw [hprox] at h
              exact ⟨⟨n, hprox⟩, (Except.ok.inj h).symm⟩
          | remoteNode n => rw [hprox] at h; cases h
      | raftRpc exchange =>
          simp only [orPanic_eq_ok] at h
          exact raftRpc_eq_ok h
      | stopping =>
          simp only [disconnect_eq a hs, Except.map, orPanic_eq_ok] at h
          exact (Except.ok.inj h).symm

/-! ## Invariants of a run -/

/-- Only `UpdateProximity` writes a field of the node, and it writes the proximity. -/
theorem Effect.node {a a' : NodeActor} {e : NodeEvent} (h : a.Effect e a') :
    a'.node = a.node ∨
      ∃ proximity, e = .updateProximity proximity ∧ a'.node = { a.node with proximity } := by
  cases e with
  | connect exchange =>
      obtain ⟨-, h⟩ := h
      split at h <;> exact .inl (by rw [h])
  | connected => exact .inl (by rw [h.2])
  | retry => exact .inl (by rw [h.2])
  | disconnect => exact .inl (by rw [h])
  | updateProximity proximity => exact .inr ⟨proximity, rfl, by rw [h]; rfl⟩
  | changeClusterConfig command => exact .inl (by rw [h.2])
  | raftRpc exchange => exact .inl (by rw [h])
  | stopping => exact .inl (by rw [h])

/-- No step writes the status. -/
theorem Effect.status {a a' : NodeActor} {e : NodeEvent} (h : a.Effect e a') :
    a'.node.status = a.node.status := by
  rcases h.node with hnode | ⟨proximity, -, hnode⟩ <;> rw [hnode]

/-- **The status never changes.** -/
theorem status_of_runs {a a' : NodeActor} {es : List NodeEvent}
    (h : Runs (StepOf NodeActor.step) a es a') (hs : a.node.status = .initialized) :
    a'.node.status = .initialized :=
  h.invariant (I := fun a => a.node.status = .initialized)
    (fun _ _ _ hs hstep => (step_cases hs hstep).2.status.trans hs) hs

/-- Reports are only ever appended, and no report says `initialized`. -/
theorem Effect.reports {a a' : NodeActor} {e : NodeEvent} (h : a.Effect e a') :
    ∃ new, a'.reports = a.reports ++ new ∧ NodeStatus.initialized ∉ new := by
  cases e with
  | connect exchange =>
      obtain ⟨-, h⟩ := h
      split at h
      · exact ⟨[.weaklyConnected], by rw [h], by simp⟩
      · exact ⟨[.failure 1], by rw [h], by simp⟩
  | connected => exact ⟨[.connected], by rw [h.2], by simp⟩
  | retry => exact ⟨[], by rw [h.2]; simp, by simp⟩
  | disconnect => exact ⟨[], by rw [h]; simp, by simp⟩
  | updateProximity proximity => exact ⟨[], by rw [h]; simp [updateProximity], by simp⟩
  | changeClusterConfig command => exact ⟨[], by rw [h.2]; simp, by simp⟩
  | raftRpc exchange => exact ⟨[], by rw [h]; simp, by simp⟩
  | stopping => exact ⟨[], by rw [h]; simp, by simp⟩

theorem reports_of_runs {a a' : NodeActor} {es : List NodeEvent}
    (h : Runs (StepOf NodeActor.step) a es a') (hs : a.node.status = .initialized) :
    ∃ new, a'.reports = a.reports ++ new ∧ NodeStatus.initialized ∉ new := by
  induction h with
  | nil a => exact ⟨[], by simp, by simp⟩
  | cons hstep _ ih =>
      have heff := (step_cases hs hstep).2
      obtain ⟨new, hnew, hmem⟩ := heff.reports
      obtain ⟨rest, hrest, hmem'⟩ := ih (heff.status.trans hs)
      exact ⟨new ++ rest, by rw [hrest, hnew, List.append_assoc], by simp [hmem, hmem']⟩

/-! ## The chain of connection attempts -/

/-- What is pending for the actor: before the first success exactly one attempt, afterwards none. -/
def Pending (a : NodeActor) : Prop :=
  (a.connects + a.timers = 1 ∧ a.acks = 0) ∨ (a.connects = 0 ∧ a.timers = 0)

theorem Effect.pending {a a' : NodeActor} {e : NodeEvent} (h : a.Effect e a') (hp : a.Pending) :
    a'.Pending := by
  unfold Pending at hp ⊢
  cases e with
  | connect exchange =>
      obtain ⟨hpos, h⟩ := h
      split at h <;> rw [h] <;> simp only <;> omega
  | connected => rw [h.2]; have := h.1; simp only; omega
  | retry => rw [h.2]; have := h.1; simp only; omega
  | disconnect => rw [h]; exact hp
  | updateProximity proximity => rw [h]; exact hp
  | changeClusterConfig command => rw [h.2]; exact hp
  | raftRpc exchange => rw [h]; exact hp
  | stopping => rw [h]; exact hp

theorem pending_of_runs {a a' : NodeActor} {es : List NodeEvent}
    (h : Runs (StepOf NodeActor.step) a es a') (hs : a.node.status = .initialized)
    (hp : a.Pending) : a'.Pending :=
  (h.invariant (I := fun a => a.node.status = .initialized ∧ a.Pending)
    (fun _ _ _ hI hstep =>
      have heff := (step_cases hI.1 hstep).2
      ⟨heff.status.trans hI.1, heff.pending hI.2⟩) ⟨hs, hp⟩).2

theorem pending_start (node : Node) : (start node).Pending := .inl ⟨rfl, rfl⟩

end NodeActor

end RaftScaffold
