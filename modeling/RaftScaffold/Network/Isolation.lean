import RaftScaffold.Network.Handlers
import RaftScaffold.Node.Reports

set_option autoImplicit false

/-! # Isolating a node that cannot be reached

The escalation that is meant to isolate an unreachable node runs across two actors: the node counts its failed
attempts and reports `Disconnected` once they exceed three, and the network isolates the node on this report. The
count is carried in the node's status, which is never written, so it stays at one: no run of failing attempts,
however long, makes the network isolate the node (`NodeActor.failures_never_escalate`). -/

namespace RaftScaffold

open Transition

/-- The network handles the reports of node `id`, in order. -/
def Network.handleReports (id : NodeId) (network : Network) (reports : List NodeStatus) : Network :=
  reports.foldl (fun network status => network.handleNodeStatusChange { id, status }) network

/-- What a chain of failures is meant to do: the counts increase by one from report to report, one of the
    first four reports is `Disconnected`, and by then the network has isolated the node. -/
def EscalatesToIsolation (id : NodeId) (network : Network) (reports : List NodeStatus) : Prop :=
  (∀ i m m', reports[i]? = some (.failure m) → reports[i + 1]? = some (.failure m') → m' = m + 1) ∧
    ∃ i ≤ 3, reports[i]? = some .disconnected ∧
      id ∈ (network.handleReports id (reports.take (i + 1))).state.isolatedNodes ∧
      id ∉ (network.handleReports id (reports.take (i + 1))).state.connectedNodes

/-- A reported failure changes nothing in the network. -/
theorem Network.handleNodeStatusChange_failure (network : Network) (id : NodeId) (attempts : Int8) :
    network.handleNodeStatusChange { id, status := .failure attempts } = network := by
  simp [Network.handleNodeStatusChange]

theorem Network.handleReports_failures (network : Network) (id : NodeId) (n : Nat) :
    network.handleReports id (List.replicate n (.failure 1)) = network := by
  unfold Network.handleReports
  induction n with
  | zero => rfl
  | succ n ih => rw [List.replicate_succ, List.foldl_cons, handleNodeStatusChange_failure, ih]

namespace NodeActor

/-- **Failures never escalate.** In every run of a node's actor in which more than three consecutive attempts
    to connect fail, the reports of these attempts do not escalate to an isolation of the node, and handling
    them leaves the network as it was. -/
theorem failures_never_escalate (id localId : NodeId) (info localInfo : NodeInfo)
    (proximity : Proximity) (before es : List NodeEvent) (a a' : NodeActor)
    (hbefore : Runs (StepOf NodeActor.step) (start (Node.new id info localId localInfo proximity))
      before a)
    (hfail : Runs FailingStep a es a') (hmore : 3 < attempts es) (network : Network) :
    ∃ reports, a'.reports = a.reports ++ reports ∧ reports.length = attempts es ∧
      ¬ EscalatesToIsolation id network reports ∧ network.handleReports id reports = network := by
  have hs : a.node.status = .initialized := status_of_runs hbefore rfl
  have hreports := failingRun_reports hfail hs (pending_of_runs hbefore rfl (pending_start _))
    (by omega)
  refine ⟨_, hreports, List.length_replicate, ?_, Network.handleReports_failures _ _ _⟩
  rintro ⟨-, i, -, hdisconnected, -⟩
  have := List.mem_of_getElem? hdisconnected
  simp [List.mem_replicate] at this

/-- Four attempts to connect that time out, each after the retry timer of the one before. -/
def fourTimeouts : List NodeEvent :=
  let attempt : NodeEvent := .connect (.error (.timeout "operation timed out"))
  [attempt, .retry, attempt, .retry, attempt, .retry, attempt]

theorem fourTimeouts_failing :
    Runs FailingStep (start sampleNode) fourTimeouts
      (finalState NodeActor.step (start sampleNode) fourTimeouts) :=
  failingRun_of_remote (runs_finalState rfl) rfl rfl (by decide)

/-- Four timeouts in a row leave no trace in a network that knows the node. -/
theorem failures_never_escalate_timeouts :
    ∃ reports, (finalState NodeActor.step (start sampleNode) fourTimeouts).reports = [] ++ reports ∧
      reports.length = 4 ∧ ¬ EscalatesToIsolation 2 Host.sampleJoined.network reports ∧
      Host.sampleJoined.network.handleReports 2 reports = Host.sampleJoined.network :=
  failures_never_escalate _ _ _ _ _ [] fourTimeouts _ _ (.nil _) fourTimeouts_failing (by decide) _

/-- So persistent failure does not isolate the node. -/
theorem persistentFailure_isolates_fails :
    ¬ ∀ id localId info localInfo proximity before es a a',
      Runs (StepOf NodeActor.step) (start (Node.new id info localId localInfo proximity)) before a →
      Runs FailingStep a es a' → 3 < attempts es → ∀ network : Network, id ∈ network.nodes →
      ∃ reports, a'.reports = a.reports ++ reports ∧ EscalatesToIsolation id network reports := by
  intro hall
  obtain ⟨reports, hreports, -, i, -, hdisconnected, -⟩ :=
    hall 2 1 sampleNode.localInfo sampleNode.localInfo sampleRemote [] fourTimeouts _ _ (.nil _)
      fourTimeouts_failing (by decide) Host.sampleJoined.network (by decide)
  have hmem := List.mem_of_getElem? hdisconnected
  rw [show reports = List.replicate 4 (.failure 1) from hreports.symm] at hmem
  exact absurd hmem (by decide)

end NodeActor

end RaftScaffold
