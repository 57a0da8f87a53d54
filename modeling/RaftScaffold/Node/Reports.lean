import RaftScaffold.Node.Steps

set_option autoImplicit false

/-! # A node's status and what it reported

The status a `Node` keeps is meant to be the one it last reported to the network: the guards of `connect` and
`disconnect` read it, and the failure counter continues from it. Since `apply_status_change` stores nothing, the
two agree exactly until the first `Connect` is handled (`NodeActor.agreesWithReports_iff`), and every failure in a
chain of attempts is reported as the first one (`NodeActor.failingRun_reports`). -/

namespace RaftScaffold

open Transition

namespace NodeActor

/-- The status of the last report, `initialized` before the first. -/
def lastReport (a : NodeActor) : NodeStatus := a.reports.getLast?.getD .initialized

/-- The node's status is the one it last reported. While this is a connected status, a `Connect` makes no call,
    and a `Disconnect` or stopping calls the proximity's `disconnect` and reports its success. -/
def AgreesWithReports (a : NodeActor) : Prop :=
  a.node.status = a.lastReport ∧
    (a.lastReport.isConnected = true →
      (∀ exchange a', a.step (.connect exchange) = .ok a' → a'.calls = a.calls) ∧
      ∀ e a', e = .disconnect ∨ e = .stopping → a.step e = .ok a' →
        a'.calls = a.calls ++ [.disconnect] ∧
          (a.node.proximity.disconnect = .ok () → a'.reports = a.reports ++ [.disconnected]))

end NodeActor

def NodeEvent.isConnect : NodeEvent → Bool
  | .connect _ => true
  | _ => false

namespace NodeActor

/-! ## Reports along a run -/

/-- Nothing is reported, and no success is pending. -/
def Silent (a : NodeActor) : Prop := a.reports = [] ∧ a.acks = 0

theorem Effect.silent {a a' : NodeActor} {e : NodeEvent} (h : a.Effect e a') (he : e.isConnect = false)
    (hsilent : a.Silent) : a'.Silent := by
  cases e with
  | connect exchange => cases he
  | connected => exact absurd h.1 (by rw [hsilent.2]; exact Nat.lt_irrefl 0)
  | retry => rw [h.2]; exact hsilent
  | disconnect => rw [h]; exact hsilent
  | updateProximity proximity => rw [h]; exact hsilent
  | changeClusterConfig command => rw [h.2]; exact hsilent
  | raftRpc exchange => rw [h]; exact hsilent
  | stopping => rw [h]; exact hsilent

/-- Without a `Connect` nothing is ever reported. -/
theorem silent_of_runs {a a' : NodeActor} {es : List NodeEvent}
    (h : Runs (StepOf NodeActor.step) a es a') (hs : a.node.status = .initialized)
    (hsilent : a.Silent) (hes : ∀ e ∈ es, e.isConnect = false) : a'.Silent :=
  (h.invariant_of_forall (I := fun a : NodeActor => a.node.status = .initialized ∧ a.Silent)
    (p := fun e => e.isConnect = false) (fun _ _ _ he hI hstep =>
      have heff := (step_cases hI.1 hstep).2
      ⟨heff.status.trans hI.1, heff.silent he hI.2⟩) hes ⟨hs, hsilent⟩).2

/-- Handling a `Connect` reports something. -/
theorem Effect.reports_ne_nil {a a' : NodeActor} {exchange : Except NodeError Acknowledged}
    (h : a.Effect (.connect exchange) a') : a'.reports ≠ [] := by
  obtain ⟨-, h⟩ := h
  split at h <;> rw [h] <;> simp

/-- Once a `Connect` was handled, the last report is not `initialized`. -/
theorem lastReport_of_connect {a a' : NodeActor} {es : List NodeEvent}
    (h : Runs (StepOf NodeActor.step) a es a') (hs : a.node.status = .initialized)
    (hreports : NodeStatus.initialized ∉ a.reports) (hconn : ∃ e ∈ es, e.isConnect = true) :
    a'.lastReport ≠ .initialized := by
  obtain ⟨e, he, hconnect⟩ := hconn
  -- split the run at the `Connect`: no part of it reports `initialized`
  obtain ⟨pre, post, rfl⟩ := List.append_of_mem he
  obtain ⟨a₁, hpre, hrest⟩ := (Runs.append_iff _ _ _ _).1 h
  obtain ⟨a₂, hstep, hpost⟩ := (Runs.cons_iff _ _ _ _).1 hrest
  have hs₁ := status_of_runs hpre hs
  have heff := (step_cases hs₁ hstep).2
  obtain ⟨new₁, hnew₁, hno₁⟩ := reports_of_runs hpre hs
  obtain ⟨new₂, hnew₂, hno₂⟩ := heff.reports
  obtain ⟨new₃, hnew₃, hno₃⟩ := reports_of_runs hpost (heff.status.trans hs₁)
  have hne : a'.reports ≠ [] := by
    cases e with
    | connect exchange =>
        rw [hnew₃]
        exact List.append_ne_nil_of_left_ne_nil heff.reports_ne_nil new₃
    | _ => cases hconnect
  have hmem : a'.lastReport ∈ a'.reports := by
    rw [lastReport, List.getLast?_eq_some_getLast hne]
    exact List.getLast_mem hne
  intro hlast
  rw [hlast, hnew₃, hnew₂, hnew₁] at hmem
  simp [hreports, hno₁, hno₂, hno₃] at hmem

/-- **When status and reports agree.** In every run of a node's actor, the node's status agrees with what it
    reported if and only if no `Connect` has been handled yet. -/
theorem agreesWithReports_iff (id localId : NodeId) (info localInfo : NodeInfo) (proximity : Proximity)
    (es : List NodeEvent) (a : NodeActor)
    (h : Runs (StepOf NodeActor.step) (start (Node.new id info localId localInfo proximity)) es a) :
    a.AgreesWithReports ↔ ∀ e ∈ es, e.isConnect = false := by
  have hstatus : a.node.status = .initialized := status_of_runs h rfl
  constructor
  · intro hagrees e he
    rw [← Bool.not_eq_true]
    intro hconnect
    exact lastReport_of_connect h rfl (by simp [start]) ⟨e, he, hconnect⟩
      (hagrees.1.symm.trans hstatus)
  · intro hes
    have hlast : a.lastReport = .initialized := by
      rw [lastReport, (silent_of_runs h rfl ⟨rfl, rfl⟩ hes).1]
      rfl
    refine ⟨hstatus.trans hlast.symm, fun hconn => ?_⟩
    rw [hlast] at hconn
    cases hconn

def sampleRemote : Proximity :=
  .remoteNode { remoteId := 2, remoteInfo :=
    { name := "b", clusterAddress := "b:8000", appAddress := "b:8001", publicAddress := "b:8002" } }

def sampleNode : Node :=
  Node.new 2 { name := "b", clusterAddress := "b:8000", appAddress := "b:8001", publicAddress := "b:8002" }
    1 { name := "a", clusterAddress := "a:8000", appAddress := "a:8001", publicAddress := "a:8002" }
    sampleRemote

/-- Whatever an actor meets before its first `Connect`, it agrees with its empty reports. -/
theorem agreesWithReports_unconnected :
    let es : List NodeEvent := [.disconnect, .updateProximity sampleRemote, .raftRpc (.ok (.ok ()))]
    (finalState NodeActor.step (start sampleNode) es).AgreesWithReports := by
  intro es
  have hrun : Runs (StepOf NodeActor.step) (start sampleNode) es
      (finalState NodeActor.step (start sampleNode) es) := runs_finalState rfl
  exact (agreesWithReports_iff _ _ _ _ _ es _ hrun).2 (by simp [es, NodeEvent.isConnect])

/-- After one successful attempt the last report is `Connected` and the status is still `Initialized`. -/
theorem agreesWithReports_fails :
    ¬ ∀ id localId info localInfo proximity es a,
      Runs (StepOf NodeActor.step) (start (Node.new id info localId localInfo proximity)) es a →
      a.AgreesWithReports := by
  intro hall
  let es : List NodeEvent := [.connect (.ok {}), .connected]
  have hagrees := hall 2 1 sampleNode.localInfo sampleNode.localInfo sampleRemote es
    (finalState NodeActor.step (start (Node.new 2 sampleNode.localInfo 1 sampleNode.localInfo
      sampleRemote)) es) (runs_finalState rfl)
  exact absurd hagrees.1 (by decide)

/-! ## Chains of failing attempts -/

/-- A step in which no attempt to connect succeeds. -/
def FailingStep (a : NodeActor) (e : NodeEvent) (a' : NodeActor) : Prop :=
  StepOf NodeActor.step a e a' ∧
    ∀ exchange, e = .connect exchange → ∃ err, a.node.proximity.connect exchange = .error err

/-- The number of attempts to connect among the events. -/
def attempts (es : List NodeEvent) : Nat := es.countP NodeEvent.isConnect

theorem FailingStep.effect {a a' : NodeActor} {e : NodeEvent} (h : FailingStep a e a')
    (hs : a.node.status = .initialized) : a.Effect e a' := (step_cases hs h.1).2

/-- While an attempt is pending and nothing has succeeded, a failing step keeps it so, and reports a failed
    attempt as the first failure. -/
theorem FailingStep.trying {a a' : NodeActor} {e : NodeEvent} (h : FailingStep a e a')
    (hs : a.node.status = .initialized) (htrying : a.connects + a.timers = 1 ∧ a.acks = 0) :
    (a'.connects + a'.timers = 1 ∧ a'.acks = 0) ∧
      a'.reports = a.reports ++ List.replicate (attempts [e]) (.failure 1) := by
  have heff := h.effect hs
  cases e with
  | connect exchange =>
      obtain ⟨hpos, heff⟩ := heff
      obtain ⟨err, herr⟩ := h.2 exchange rfl
      rw [herr] at heff
      simp only at heff
      rw [heff]
      refine ⟨⟨?_, htrying.2⟩, rfl⟩
      simp only
      omega
  | connected => exact absurd heff.1 (by rw [htrying.2]; exact Nat.lt_irrefl 0)
  | retry =>
      have hpos := heff.1
      rw [heff.2]
      refine ⟨⟨?_, htrying.2⟩, by simp [attempts, NodeEvent.isConnect]⟩
      simp only
      omega
  | disconnect => rw [heff]; exact ⟨htrying, by simp [attempts, NodeEvent.isConnect]⟩
  | updateProximity proximity =>
      rw [heff]; exact ⟨htrying, by simp [attempts, NodeEvent.isConnect, updateProximity]⟩
  | changeClusterConfig command =>
      rw [heff.2]; exact ⟨htrying, by simp [attempts, NodeEvent.isConnect]⟩
  | raftRpc exchange => rw [heff]; exact ⟨htrying, by simp [attempts, NodeEvent.isConnect]⟩
  | stopping => rw [heff]; exact ⟨htrying, by simp [attempts, NodeEvent.isConnect]⟩

/-- After the first success no attempt follows. -/
theorem FailingStep.settled {a a' : NodeActor} {e : NodeEvent} (h : FailingStep a e a')
    (hs : a.node.status = .initialized) (hsettled : a.connects = 0 ∧ a.timers = 0) :
    (a'.connects = 0 ∧ a'.timers = 0) ∧ attempts [e] = 0 := by
  have heff := h.effect hs
  cases e with
  | connect exchange => exact absurd heff.1 (by rw [hsettled.1]; exact Nat.lt_irrefl 0)
  | retry => exact absurd heff.1 (by rw [hsettled.2]; exact Nat.lt_irrefl 0)
  | connected => rw [heff.2]; exact ⟨hsettled, rfl⟩
  | disconnect => rw [heff]; exact ⟨hsettled, rfl⟩
  | updateProximity proximity => rw [heff]; exact ⟨hsettled, rfl⟩
  | changeClusterConfig command => rw [heff.2]; exact ⟨hsettled, rfl⟩
  | raftRpc exchange => rw [heff]; exact ⟨hsettled, rfl⟩
  | stopping => rw [heff]; exact ⟨hsettled, rfl⟩

/-- An event that is no successful exchange with a remote node and leaves the proximity alone. -/
def isFailure : NodeEvent → Bool
  | .connect (.ok _) => false
  | .updateProximity _ => false
  | _ => true

/-- A run of a remote node's actor in which every exchange fails is a chain of failing attempts. -/
theorem failingRun_of_remote {a a' : NodeActor} {es : List NodeEvent} {remote : RemoteNode}
    (h : Runs (StepOf NodeActor.step) a es a') (hs : a.node.status = .initialized)
    (hprox : a.node.proximity = .remoteNode remote) (hes : ∀ e ∈ es, isFailure e = true) :
    Runs FailingStep a es a' := by
  induction h with
  | nil a => exact .nil a
  | @cons a a₁ _ e es hstep _ ih =>
      rw [List.forall_mem_cons] at hes
      have heff := (step_cases hs hstep).2
      have hprox' : a₁.node.proximity = .remoteNode remote := by
        rcases heff.node with hnode | ⟨proximity, rfl, -⟩
        · exact (congrArg Node.proximity hnode).trans hprox
        · cases hes.1
      refine .cons ⟨hstep, ?_⟩ (ih (heff.status.trans hs) hprox' hes.2)
      rintro exchange rfl
      rw [hprox]
      cases exchange with
      | ok ack => cases hes.1
      | error err => exact ⟨err, rfl⟩

theorem attempts_cons (e : NodeEvent) (es : List NodeEvent) :
    attempts (e :: es) = attempts [e] + attempts es := by
  rw [attempts, attempts, attempts, List.countP_cons, List.countP_singleton, Nat.add_comm]

theorem settled_attempts {a a' : NodeActor} {es : List NodeEvent} (h : Runs FailingStep a es a')
    (hs : a.node.status = .initialized) (hsettled : a.connects = 0 ∧ a.timers = 0) :
    attempts es = 0 := by
  induction h with
  | nil a => rfl
  | cons hstep _ ih =>
      obtain ⟨hsettled', hzero⟩ := hstep.settled hs hsettled
      rw [attempts_cons, hzero, ih ((hstep.effect hs).status.trans hs) hsettled']

/-- **Every failure is reported as the first one.** A run in which all attempts to connect fail, and at least
    one is made, reports `Failure(1)` for each attempt and nothing else. -/
theorem failingRun_reports {a a' : NodeActor} {es : List NodeEvent} (h : Runs FailingStep a es a')
    (hs : a.node.status = .initialized) (hp : a.Pending) (hsome : 0 < attempts es) :
    a'.reports = a.reports ++ List.replicate (attempts es) (.failure 1) := by
  rcases hp with htrying | hsettled
  · -- as long as every attempt fails, exactly one is pending
    clear hsome
    induction h with
    | nil a => simp [attempts]
    | @cons _ _ _ e es hstep _ ih =>
        obtain ⟨htrying', hreports⟩ := hstep.trying hs htrying
        rw [ih ((hstep.effect hs).status.trans hs) htrying', hreports, attempts_cons e es,
          List.append_assoc, List.replicate_append_replicate]
  · rw [settled_attempts h hs hsettled] at hsome
    exact absurd hsome (Nat.lt_irrefl 0)

end NodeActor

end RaftScaffold
