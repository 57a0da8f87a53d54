import RaftScaffold.Network.Steps
import RaftScaffold.Timeline

set_option autoImplicit false

/-! # The lifecycle and the history of Raft roles

A network advances its lifecycle only when it handles `RaftMetrics`, and then by the Raft role the
metrics name. So the lifecycle is an automaton over roles with three phases (`Phase`): the network is
joining until it first votes, up while it votes, and leaving for good once it votes no more. The other
statuses are never reached, and no other message moves the automaton (`Host.status_of_roles`). -/

namespace RaftScaffold

open Transition

/-! ## The automaton -/

inductive Phase where
  | joining
  | up
  | leaving
  deriving DecidableEq, Repr

namespace Phase

def step : Phase → RaftState → Phase
  | .joining, .nonVoter => .joining
  | .joining, _ => .up
  | .up, .nonVoter => .leaving
  | .up, _ => .up
  | .leaving, _ => .leaving

def status : Phase → Status
  | .joining => .joining
  | .up => .up
  | .leaving => .leaving

/-- The statuses visited on the way to a phase. -/
def statuses : Phase → List Status
  | .joining => [.joining]
  | .up => [.joining, .up]
  | .leaving => [.joining, .up, .leaving]

/-- The phase after a history of roles. -/
def after (roles : List RaftState) : Phase := roles.foldl step .joining

theorem after_concat (roles : List RaftState) (role : RaftState) :
    after (roles ++ [role]) = (after roles).step role := by
  simp [after, List.foldl_append]

theorem foldl_nonVoters {roles : List RaftState} (h : ∀ role ∈ roles, role = .nonVoter) :
    roles.foldl step .joining = .joining := by
  induction roles with
  | nil => rfl
  | cons role roles ih =>
      rw [List.forall_mem_cons] at h
      rw [List.foldl_cons, h.1]
      exact ih h.2

theorem foldl_voters {roles : List RaftState} (h : ∀ role ∈ roles, role ≠ .nonVoter) :
    roles.foldl step .up = .up := by
  induction roles with
  | nil => rfl
  | cons role roles ih =>
      rw [List.forall_mem_cons] at h
      have hstay : Phase.up.step role = .up := by
        cases role with
        | nonVoter => exact absurd rfl h.1
        | _ => rfl
      rw [List.foldl_cons, hstay]
      exact ih h.2

theorem foldl_leaving (roles : List RaftState) : roles.foldl step .leaving = .leaving := by
  induction roles with
  | nil => rfl
  | cons role roles ih => exact ih

theorem after_nonVoters {roles : List RaftState} (h : ∀ role ∈ roles, role = .nonVoter) :
    after roles = .joining := foldl_nonVoters h

theorem after_voters {nonVoters voters : List RaftState} (hnon : ∀ role ∈ nonVoters, role = .nonVoter)
    (hne : voters ≠ []) (hvote : ∀ role ∈ voters, role ≠ .nonVoter) :
    after (nonVoters ++ voters) = .up := by
  rw [after, List.foldl_append, foldl_nonVoters hnon]
  cases voters with
  | nil => exact absurd rfl hne
  | cons role voters =>
      rw [List.forall_mem_cons] at hvote
      have hfirst : Phase.joining.step role = .up := by
        cases role with
        | nonVoter => exact absurd rfl hvote.1
        | _ => rfl
      rw [List.foldl_cons, hfirst]
      exact foldl_voters hvote.2

theorem after_left {nonVoters voters : List RaftState} (rest : List RaftState)
    (hnon : ∀ role ∈ nonVoters, role = .nonVoter) (hne : voters ≠ [])
    (hvote : ∀ role ∈ voters, role ≠ .nonVoter) :
    after (nonVoters ++ voters ++ .nonVoter :: rest) = .leaving := by
  have hup := after_voters hnon hne hvote
  rw [after] at hup ⊢
  rw [List.foldl_append, hup, List.foldl_cons]
  exact foldl_leaving rest

/-- A phase step visits the status that the reaction to the metrics requests. -/
theorem statuses_step (phase : Phase) (role : RaftState) :
    (phase.step role).statuses =
      phase.statuses ++ (NetworkState.requestedStatus phase.status role).toList := by
  cases phase <;> cases role <;> rfl

end Phase

/-! ## The lifecycle follows the automaton -/

namespace NetworkState

/-- The timeline has one entry for each of these statuses, and the status is the last of them. -/
def Visited (s : NetworkState) (statuses : List Status) : Prop :=
  s.log.map StatusEntry.status = statuses ∧ statuses.getLast? = some s.status

theorem Visited.advance {s s' : NetworkState} {statuses : List Status} {now : DateTime}
    {next old : Status} (hv : s.Visited statuses) (hadv : s.advance now next = .ok (old, s')) :
    s'.Visited (statuses ++ [next]) := by
  obtain ⟨-, -, hstatus, ⟨previous, hlast, hlog⟩, -⟩ := advance_eq_ok hadv
  have hsplit : s.log.dropLast ++ [previous] = s.log := List.dropLast_append_getLast? previous hlast
  refine ⟨?_, by rw [List.getLast?_concat, hstatus]⟩
  rw [hlog, ← hv.1]
  conv_rhs => rw [← hsplit]
  simp [StatusEntry.new]

theorem Visited.status_eq {s : NetworkState} {phase : Phase} (hv : s.Visited phase.statuses) :
    s.status = phase.status := by
  have hlast := hv.2
  cases phase <;> exact (Option.some.inj hlast).symm

/-- The reaction to metrics is a step of the automaton. -/
theorem Visited.advanceStateOnRaftStatus {s s' : NetworkState} {phase : Phase} {now : DateTime}
    {m : RaftMetrics} (hv : s.Visited phase.statuses)
    (hadv : s.advanceStateOnRaftStatus now m = .ok s') :
    s'.Visited (phase.step m.state).statuses := by
  rw [Phase.statuses_step, ← hv.status_eq]
  rcases advanceStateOnRaftStatus_cases hadv with ⟨hreq, rfl⟩ | ⟨next, old, hreq, hnext⟩
  · simpa [hreq] using hv
  · simpa [hreq] using hv.advance hnext

end NetworkState

/-! ## The other messages -/

/-- The metrics that an event delivers. -/
def HostEvent.metrics : HostEvent → Option RaftMetrics
  | .message (.raftMetrics _ metrics) => some metrics
  | _ => none

/-- `network'` is where `network` is in its lifecycle, with the same timeline and the same metrics. -/
structure Network.SameLifecycle (network network' : Network) : Prop where
  status : network'.state.status = network.state.status
  log : network'.state.log = network.state.log
  metrics : network'.metrics = network.metrics

namespace Host

theorem registered_sameLifecycle (h : Host) (id : NodeId) (info : NodeInfo) :
    h.network.SameLifecycle (h.registered id info).network :=
  ⟨NetworkState.restoreNode_status _ _, NetworkState.restoreNode_log _ _, rfl⟩

theorem handleNodeStatusChange_sameLifecycle (network : Network) (msg : HandleNodeStatusChange) :
    network.SameLifecycle (network.handleNodeStatusChange msg) := by
  have hisolate : network.SameLifecycle (network.isolateNode msg.id) :=
    ⟨NetworkState.isolateNode_status _ _, NetworkState.isolateNode_log _ _, rfl⟩
  unfold Network.handleNodeStatusChange
  split
  · cases msg.status with
    | initialized => exact hisolate
    | weaklyConnected => exact hisolate
    | connected => exact ⟨NetworkState.restoreNode_status _ _, NetworkState.restoreNode_log _ _, rfl⟩
    | failure attempts => exact ⟨rfl, rfl, rfl⟩
    | disconnected => exact hisolate
  · exact ⟨rfl, rfl, rfl⟩

/-- Only `RaftMetrics` moves the lifecycle. -/
theorem Effect.sameLifecycle {sha256 : String → String} {h h' : Host} {e : HostEvent}
    (heff : h.Effect sha256 e h') (he : e.metrics = none) : h.network.SameLifecycle h'.network := by
  refine heff.network_rule (P := h.network.SameLifecycle) ⟨rfl, rfl, rfl⟩ ?_ ?_ (fun _ _ => ⟨rfl, rfl, rfl⟩)
    (fun _ => ⟨rfl, rfl, rfl⟩) ?_ ?_ (fun _ _ => ⟨rfl, rfl, rfl⟩)
  · intro network id nodeRef hsame
    exact ⟨hsame.status, hsame.log, hsame.metrics⟩
  · intro network id hsame
    exact ⟨(NetworkState.restoreNode_status _ _).trans hsame.status,
      (NetworkState.restoreNode_log _ _).trans hsame.log, hsame.metrics⟩
  · rintro now metrics state rfl _
    cases he
  · intro msg _
    exact handleNodeStatusChange_sameLifecycle h.network msg

/-- Every event keeps the timeline of the network. -/
theorem Effect.timeline {sha256 : String → String} {h h' : Host} {e : HostEvent}
    (heff : h.Effect sha256 e h') (ht : h.network.state.Timeline) : h'.network.state.Timeline := by
  refine heff.network_rule (P := fun network => network.state.Timeline) ht (fun _ _ _ ht => ht) ?_
    (fun _ _ => ht) (fun _ => ht) ?_ ?_ (fun _ _ => ht)
  · intro network id ht
    exact ht.of_eq (NetworkState.restoreNode_status _ _) (NetworkState.restoreNode_log _ _)
  · intro now metrics state _ hstate
    exact ht.advanceStateOnRaftStatus hstate
  · intro msg _
    have hsame := handleNodeStatusChange_sameLifecycle h.network msg
    exact ht.of_eq hsame.status hsame.log

theorem Reachable.timeline {sha256 : String → String} {h : Host} (hr : Reachable sha256 h) :
    h.network.state.Timeline := by
  obtain ⟨now, id, info, ring, es, hrun⟩ := hr
  refine hrun.invariant (I := fun h => h.network.state.Timeline) (fun _ _ _ ht hstep => ?_)
    (NetworkState.timeline_default now)
  exact (step_cases hstep).timeline ht

/-! ## Runs -/

/-- The metrics that the events deliver, oldest first. -/
def metricsSeen (es : List HostEvent) : List RaftMetrics := es.filterMap HostEvent.metrics

/-- The Raft roles that they name. -/
def rolesSeen (es : List HostEvent) : List RaftState := (metricsSeen es).map RaftMetrics.state

/-- What the roles and the metrics handled so far make of a network. -/
def FollowsRoles (es : List HostEvent) (h : Host) : Prop :=
  h.network.state.Visited (Phase.after (rolesSeen es)).statuses ∧
    h.network.metrics = (metricsSeen es).getLast?

theorem followsRoles_step {sha256 : String → String} {pre : List HostEvent} {h h' : Host} {e : HostEvent}
    (hf : FollowsRoles pre h) (hstep : Step sha256 h e h') : FollowsRoles (pre ++ [e]) h' := by
  have heff := step_cases hstep
  unfold FollowsRoles at hf ⊢
  cases he : e.metrics with
  | none =>
      have hsame := heff.sameLifecycle he
      have hseen : metricsSeen (pre ++ [e]) = metricsSeen pre := by simp [metricsSeen, he]
      rw [rolesSeen, hseen, ← rolesSeen]
      unfold NetworkState.Visited at hf ⊢
      rwa [hsame.status, hsame.log, hsame.metrics]
  | some metrics =>
      have hseen : metricsSeen (pre ++ [e]) = metricsSeen pre ++ [metrics] := by simp [metricsSeen, he]
      rw [rolesSeen, hseen, List.map_append, ← rolesSeen, List.map_singleton, Phase.after_concat,
        List.getLast?_concat]
      cases e with
      | message msg =>
          cases msg with
          | raftMetrics now metrics' =>
              obtain rfl := Option.some.inj he
              obtain ⟨state, hstate, rfl⟩ := heff
              exact ⟨hf.1.advanceStateOnRaftStatus hstate, rfl⟩
          | _ => cases he
      | _ => cases he

theorem followsRoles_of_runs {sha256 : String → String} {now : DateTime} {id : NodeId} {info : NodeInfo}
    {ring : Ring} {es : List HostEvent} {h : Host}
    (hrun : Runs (Step sha256) (Host.new now id info ring) es h) : FollowsRoles es h :=
  hrun.invariant_history (fun _ _ _ _ => followsRoles_step) ⟨⟨rfl, rfl⟩, rfl⟩

/-- **The lifecycle is determined by the history of Raft roles.** In every run of a new network, the
    roles named by the metrics handled so far decide the status and the statuses on the timeline:
    joining while no role votes, up once the roles vote, leaving from the first role after that does not
    vote, whatever follows. The metrics kept are the last ones handled, and no other message touches
    status or timeline. -/
theorem status_of_roles (sha256 : String → String) (now : DateTime) (id : NodeId) (info : NodeInfo)
    (ring : Ring) (es : List HostEvent) (h : Host)
    (hrun : Runs (Step sha256) (Host.new now id info ring) es h) :
    ((∀ role ∈ rolesSeen es, role = .nonVoter) → h.network.state.Visited [.joining]) ∧
    (∀ nonVoters voters, rolesSeen es = nonVoters ++ voters →
      (∀ role ∈ nonVoters, role = .nonVoter) → voters ≠ [] → (∀ role ∈ voters, role ≠ .nonVoter) →
      h.network.state.Visited [.joining, .up]) ∧
    (∀ nonVoters voters rest, rolesSeen es = nonVoters ++ voters ++ .nonVoter :: rest →
      (∀ role ∈ nonVoters, role = .nonVoter) → voters ≠ [] → (∀ role ∈ voters, role ≠ .nonVoter) →
      h.network.state.Visited [.joining, .up, .leaving]) ∧
    (∀ now' id' info' ring' es' h', Runs (Step sha256) (Host.new now' id' info' ring') es' h' →
      rolesSeen es' = rolesSeen es → h'.network.state.status = h.network.state.status ∧
        h'.network.state.log.map StatusEntry.status = h.network.state.log.map StatusEntry.status) ∧
    h.network.metrics = (metricsSeen es).getLast? ∧
    ∀ e h', Step sha256 h e h' → e.metrics = none →
      h'.network.state.status = h.network.state.status ∧
        h'.network.state.log = h.network.state.log := by
  obtain ⟨hvisited, hmetrics⟩ := followsRoles_of_runs hrun
  refine ⟨fun hnon => ?_, ?_, ?_, ?_, hmetrics, ?_⟩
  · rwa [Phase.after_nonVoters hnon] at hvisited
  · intro nonVoters voters hroles hnon hne hvote
    rwa [hroles, Phase.after_voters hnon hne hvote] at hvisited
  · intro nonVoters voters rest hroles hnon hne hvote
    rwa [hroles, Phase.after_left rest hnon hne hvote] at hvisited
  · intro now' id' info' ring' es' h' hrun' hroles
    have hvisited' := (followsRoles_of_runs hrun').1
    rw [hroles] at hvisited'
    exact ⟨hvisited'.status_eq.trans hvisited.status_eq.symm, hvisited'.1.trans hvisited.1.symm⟩
  · intro e h' hstep he
    have hsame := (step_cases hstep).sameLifecycle he
    exact ⟨hsame.status, hsame.log⟩

/-- A network that learns to vote and then only listens again is leaving. -/
theorem status_of_roles_left :
    (sampleRun [.started, .message (.raftMetrics 1 nonVoterMetrics),
      .message (.raftMetrics 2 { nonVoterMetrics with state := .candidate }),
      .message (.connectNode { id := 2, info := sampleInfo }),
      .message (.raftMetrics 3 nonVoterMetrics),
      .message (.raftMetrics 4 { nonVoterMetrics with state := .leader })]).network.state.Visited
      [.joining, .up, .leaving] :=
  (status_of_roles (fun _ => "") 0 1 sampleInfo (Ring.new 10) _ _ (runs_sampleRun rfl)).2.2.1
    [.nonVoter] [.candidate] [.leader] rfl (by decide) (by decide) (by decide)

end Host

end RaftScaffold
