import RaftScaffold.NetworkState
import RaftScaffold.Transition.Runs

set_option autoImplicit false

/-! # The lifecycle's reaction to Raft metrics

`advance_state_on_raft_status` (`network.rs`) maps the current status and the Raft role to the transition
it requests, and `NetworkState::advance` panics on a transition that `checkNextStatus` refuses. The two tables
are written independently. They agree everywhere except in one cell: from `Down`, a `NonVoter` report asks
for `Joining`, which `checkNextStatus` does not allow. `metricsAccepted_iff` states exactly that for every
state a run of accepted advances and handled metrics reaches. -/

namespace RaftScaffold

open Transition

namespace NetworkState

/-- `Network::do_advance_state`, whose log message drops the previous status. -/
def doAdvanceState (s : NetworkState) (now : DateTime) (newStatus : Status) :
    Except Panic NetworkState :=
  (s.advance now newStatus).map Prod.snd

theorem doAdvanceState_eq_ok {s s' : NetworkState} {now : DateTime} {next : Status} :
    s.doAdvanceState now next = .ok s' ↔ ∃ old, s.advance now next = .ok (old, s') := by
  unfold doAdvanceState
  rw [map_eq_ok]
  constructor
  · rintro ⟨⟨old, _⟩, hadv, rfl⟩
    exact ⟨old, hadv⟩
  · rintro ⟨old, hadv⟩
    exact ⟨(old, s'), hadv, rfl⟩

/-- `Network::advance_state_on_raft_status`. -/
def advanceStateOnRaftStatus (s : NetworkState) (now : DateTime) (metrics : RaftMetrics) :
    Except Panic NetworkState :=
  match s.status, metrics.state with
  | .joining, .nonVoter => .ok s
  | .joining, _ => s.doAdvanceState now .up
  | .weaklyUp, .nonVoter => .ok s
  | .weaklyUp, _ => s.doAdvanceState now .up
  -- `checkNextStatus` refuses this transition
  | .down, .nonVoter => s.doAdvanceState now .joining
  | .down, _ => .ok s
  | .up, .nonVoter => s.doAdvanceState now .leaving
  | .up, _ => .ok s
  | .leaving, _ => .ok s
  | .exiting, _ => .ok s
  | .removed, _ => .ok s

/-- The transition `advanceStateOnRaftStatus` requests, if any. -/
def requestedStatus (status : Status) (role : RaftState) : Option Status :=
  match status, role with
  | .joining, .nonVoter => none
  | .joining, _ => some .up
  | .weaklyUp, .nonVoter => none
  | .weaklyUp, _ => some .up
  | .down, .nonVoter => some .joining
  | .up, .nonVoter => some .leaving
  | _, _ => none

theorem advanceStateOnRaftStatus_eq (s : NetworkState) (now : DateTime) (m : RaftMetrics) :
    s.advanceStateOnRaftStatus now m =
      match requestedStatus s.status m.state with
      | some next => s.doAdvanceState now next
      | none => .ok s := by
  unfold advanceStateOnRaftStatus requestedStatus
  cases s.status <;> cases m.state <;> rfl

/-- The two tables agree on every cell but one. -/
theorem checkNextStatus_requested (s : NetworkState) (role : RaftState) (next : Status)
    (h : requestedStatus s.status role = some next) :
    s.checkNextStatus next = .ok next ↔ ¬ (s.status = .down ∧ role = .nonVoter) := by
  unfold checkNextStatus
  cases hs : s.status <;> cases role <;> simp_all [requestedStatus] <;> subst h <;> simp

/-- What the reaction does: nothing, or the advance it requests. -/
theorem advanceStateOnRaftStatus_cases {s s' : NetworkState} {now : DateTime} {m : RaftMetrics}
    (h : s.advanceStateOnRaftStatus now m = .ok s') :
    (requestedStatus s.status m.state = none ∧ s' = s) ∨
      ∃ next old, requestedStatus s.status m.state = some next ∧ s.advance now next = .ok (old, s') := by
  rw [advanceStateOnRaftStatus_eq] at h
  cases hreq : requestedStatus s.status m.state with
  | none =>
      rw [hreq] at h
      exact .inl ⟨rfl, (Except.ok.inj h).symm⟩
  | some next =>
      rw [hreq] at h
      obtain ⟨old, hadv⟩ := doAdvanceState_eq_ok.1 h
      exact .inr ⟨next, old, rfl, hadv⟩

/-- The reaction leaves the membership sets alone, and the timeline non-empty. -/
theorem advanceStateOnRaftStatus_frame {s s' : NetworkState} {now : DateTime} {m : RaftMetrics}
    (h : s.advanceStateOnRaftStatus now m = .ok s') :
    s'.connectedNodes = s.connectedNodes ∧ s'.isolatedNodes = s.isolatedNodes ∧
      (s.log ≠ [] → s'.log ≠ []) := by
  rcases advanceStateOnRaftStatus_cases h with ⟨-, rfl⟩ | ⟨next, old, -, hadv⟩
  · exact ⟨rfl, rfl, id⟩
  · obtain ⟨-, -, -, ⟨previous, -, hlog⟩, hconn, hisol⟩ := advance_eq_ok hadv
    exact ⟨hconn, hisol, fun _ => by simp [hlog]⟩

/-- The metrics reach no refused transition: what they request, `checkNextStatus` accepts, and handling them
    does not panic. -/
def MetricsAccepted (s : NetworkState) (now : DateTime) (m : RaftMetrics) : Prop :=
  (∀ next, requestedStatus s.status m.state = some next → s.checkNextStatus next = .ok next) ∧
    ∃ s', s.advanceStateOnRaftStatus now m = .ok s'

end NetworkState

/-! ## Runs of the lifecycle -/

/-- What drives the lifecycle: direct `advance` calls and the metrics of the Raft actor. -/
inductive LifecycleEvent where
  | advance (now : DateTime) (next : Status)
  | raftMetrics (now : DateTime) (metrics : RaftMetrics)

def lifecycleStep (s : NetworkState) : LifecycleEvent → Except Panic NetworkState
  | .advance now next => (s.advance now next).map Prod.snd
  | .raftMetrics now metrics => s.advanceStateOnRaftStatus now metrics

/-- The timeline of a state reached from `default` is never empty. -/
theorem lifecycle_log_ne_nil {start : DateTime} {es : List LifecycleEvent} {s : NetworkState}
    (h : Runs (StepOf lifecycleStep) (NetworkState.default start) es s) : s.log ≠ [] := by
  refine h.invariant (I := fun s => s.log ≠ []) ?_ (by simp [NetworkState.default])
  intro s e s' hlog hstep
  rw [stepOf_iff] at hstep
  cases e with
  | advance now next =>
      obtain ⟨old, hadv⟩ := NetworkState.doAdvanceState_eq_ok.1 hstep
      obtain ⟨-, -, -, ⟨previous, -, hnew⟩, -⟩ := NetworkState.advance_eq_ok hadv
      simp [hnew]
  | raftMetrics now m => exact (NetworkState.advanceStateOnRaftStatus_frame hstep).2.2 hlog

/-- **When metrics can crash the lifecycle.** In every state reached by accepted advances and handled metrics,
    any further metrics request only transitions the table accepts and are handled without a panic, unless
    the status is `Down` and the metrics say `NonVoter`. -/
theorem metricsAccepted_iff (start : DateTime) (es : List LifecycleEvent) (s : NetworkState)
    (h : Runs (StepOf lifecycleStep) (NetworkState.default start) es s) (now : DateTime)
    (m : RaftMetrics) : s.MetricsAccepted now m ↔ ¬ (s.status = .down ∧ m.state = .nonVoter) := by
  have hlog := lifecycle_log_ne_nil h
  have heq := NetworkState.advanceStateOnRaftStatus_eq s now m
  cases hreq : NetworkState.requestedStatus s.status m.state with
  | none =>
      rw [hreq] at heq
      refine iff_of_true ⟨fun next hnext => ?_, s, heq⟩ ?_
      · rw [hreq] at hnext
        cases hnext
      · rintro ⟨hdown, hnonVoter⟩
        rw [hdown, hnonVoter] at hreq
        cases hreq
  | some next =>
      have hcell := NetworkState.checkNextStatus_requested s m.state next hreq
      rw [hreq] at heq
      rw [← hcell]
      constructor
      · exact fun hacc => hacc.1 next hreq
      · intro hcheck
        obtain ⟨s', hadv⟩ := NetworkState.advance_of_checkNextStatus now hcheck hlog
        refine ⟨fun next' hnext' => ?_, s', ?_⟩
        · rw [← Option.some.inj (hreq.symm.trans hnext')]
          exact hcheck
        · rw [heq]
          simp [NetworkState.doAdvanceState, hadv, Except.map]

def nonVoterMetrics : RaftMetrics :=
  { id := 1, state := .nonVoter, currentTerm := 0, lastLogIndex := 0, lastApplied := 0,
    currentLeader := none,
    membershipConfig := { isInJointConsensus := false, members := [], nonVoters := [], removing := [] } }

/-- A lifecycle that is weakly up accepts the transition to `Up` that the metrics of a follower request. -/
theorem metricsAccepted_weaklyUp :
    let s := finalState lifecycleStep (NetworkState.default 0) [.advance 1 .weaklyUp]
    let m : RaftMetrics := { nonVoterMetrics with state := .follower }
    NetworkState.requestedStatus s.status m.state = some .up ∧ s.MetricsAccepted 2 m := by
  intro s m
  have hrun : Runs (StepOf lifecycleStep) (NetworkState.default 0) [.advance 1 .weaklyUp] s := runs_finalState rfl
  exact ⟨by decide, (metricsAccepted_iff 0 _ s hrun 2 m).2 (by decide)⟩

/-- Once the network is down, the same metrics request a transition that is refused. -/
theorem metricsAccepted_fails :
    ¬ ∀ start es s, Runs (StepOf lifecycleStep) (NetworkState.default start) es s →
      ∀ now m, s.MetricsAccepted now m := by
  intro hall
  have hdown : Runs (StepOf lifecycleStep) (NetworkState.default 0) [.advance 1 .down]
      (finalState lifecycleStep (NetworkState.default 0) [.advance 1 .down]) := runs_finalState rfl
  have hcheck := (hall 0 _ _ hdown 2 nonVoterMetrics).1 .joining (by decide)
  exact absurd hcheck (by decide)

end RaftScaffold
