import RaftScaffold.Node.Reports

set_option autoImplicit false

/-! # The chain of connection attempts

`started` notifies the actor of its first `Connect`; a failed attempt arms a timer that notifies it of the
next; a successful one spawns the task that reports `Connected`. `Pending` of `Steps.lean` counts what is
under way, this file relates it to what the attempts came to: `Attempted outcomes a` says where in the
chain an actor is whose attempts had these outcomes, and every step moves along it (`step_attempted`). The
proximity that decides an outcome may be exchanged at any time, so outcomes are read off the run. -/

namespace RaftScaffold

open Transition

namespace NodeActor

abbrev Outcome : Type := Except NodeError Acknowledged

/-- The outcome of the attempt that an event makes, if it makes one. -/
def attempted (a : NodeActor) : NodeEvent → List Outcome
  | .connect exchange => [a.node.proximity.connect exchange]
  | _ => []

/-- The outcomes of the attempts along the events `es`, oldest first. -/
def outcomes (a : NodeActor) : List NodeEvent → List Outcome
  | [] => []
  | e :: es =>
      a.attempted e ++
        match a.step e with
        | .ok a' => a'.outcomes es
        | .error _ => []

theorem outcomes_cons {a a' : NodeActor} {e : NodeEvent} (h : a.step e = .ok a') (es : List NodeEvent) :
    a.outcomes (e :: es) = a.attempted e ++ a'.outcomes es := by
  rw [outcomes, h]

/-- Where an actor is in the chain after attempts with the given outcomes. -/
inductive Attempted : List Outcome → NodeActor → Prop
  /-- Nothing has succeeded: one attempt is pending, and each failure was reported. -/
  | trying {outcomes : List Outcome} {a : NodeActor} (hfailed : ∀ o ∈ outcomes, o.isOk = false)
      (hpending : a.connects + a.timers = 1) (hacks : a.acks = 0)
      (hreports : a.reports = List.replicate outcomes.length (.failure 1)) : Attempted outcomes a
  /-- An attempt succeeded, and the task that reports it is spawned. -/
  | acknowledged {failed : List Outcome} {ack : Acknowledged} {a : NodeActor}
      (hfailed : ∀ o ∈ failed, o.isOk = false) (hpending : a.connects + a.timers = 0)
      (hacks : a.acks = 1)
      (hreports : a.reports = List.replicate failed.length (.failure 1) ++ [.weaklyConnected]) :
      Attempted (failed ++ [.ok ack]) a
  /-- The task has run. -/
  | connected {failed : List Outcome} {ack : Acknowledged} {a : NodeActor}
      (hfailed : ∀ o ∈ failed, o.isOk = false) (hpending : a.connects + a.timers = 0)
      (hacks : a.acks = 0)
      (hreports :
        a.reports = List.replicate failed.length (.failure 1) ++ [.weaklyConnected, .connected]) :
      Attempted (failed ++ [.ok ack]) a

theorem attempted_start (node : Node) : Attempted [] (start node) :=
  .trying (by simp) rfl rfl rfl

/-- The first success of a chain that ends with one is this one. -/
theorem firstSuccess_unique {failed failed' rest : List Outcome} {ack ack' : Acknowledged}
    (h : failed ++ [.ok ack] = failed' ++ .ok ack' :: rest) (hfailed : ∀ o ∈ failed, o.isOk = false)
    (hfailed' : ∀ o ∈ failed', o.isOk = false) : failed' = failed ∧ rest = [] := by
  induction failed generalizing failed' with
  | nil =>
      cases failed' with
      | nil => exact ⟨rfl, (List.cons.inj h).2.symm⟩
      | cons o failed' =>
          have hhead := hfailed' o List.mem_cons_self
          rw [← (List.cons.inj h).1] at hhead
          cases hhead
  | cons o failed ih =>
      rw [List.forall_mem_cons] at hfailed
      cases failed' with
      | nil =>
          have hhead := hfailed.1
          rw [(List.cons.inj h).1] at hhead
          cases hhead
      | cons o' failed' =>
          rw [List.forall_mem_cons] at hfailed'
          obtain ⟨rfl, htail⟩ := List.cons.inj h
          obtain ⟨rfl, hrest⟩ := ih htail hfailed.2 hfailed'.2
          exact ⟨rfl, hrest⟩

/-- An actor that differs in nothing the chain is about is at the same place in it. -/
theorem Attempted.of_eq {outcomes : List Outcome} {a a' : NodeActor} (h : Attempted outcomes a)
    (hpending : a'.connects + a'.timers = a.connects + a.timers) (hacks : a'.acks = a.acks)
    (hreports : a'.reports = a.reports) : Attempted outcomes a' := by
  cases h with
  | trying hf hp ha hr =>
      exact .trying hf (hpending.trans hp) (hacks.trans ha) (hreports.trans hr)
  | acknowledged hf hp ha hr =>
      exact .acknowledged hf (hpending.trans hp) (hacks.trans ha) (hreports.trans hr)
  | connected hf hp ha hr =>
      exact .connected hf (hpending.trans hp) (hacks.trans ha) (hreports.trans hr)

/-- A `Connect` is only ever pending while nothing has succeeded. -/
theorem Attempted.connect {outcomes : List Outcome} {a a' : NodeActor} {exchange : Outcome}
    (h : Attempted outcomes a) (heff : a.Effect (.connect exchange) a') :
    Attempted (outcomes ++ [a.node.proximity.connect exchange]) a' := by
  obtain ⟨hpos, heff⟩ := heff
  cases h with
  | trying hf hp ha hr =>
      cases houtcome : a.node.proximity.connect exchange with
      | ok ack =>
          rw [houtcome] at heff
          simp only at heff
          subst heff
          refine .acknowledged hf ?_ ?_ ?_
          · show a.connects - 1 + a.timers = 0
            omega
          · show a.acks + 1 = 1
            rw [ha]
          · show a.reports ++ [.weaklyConnected] = _
            rw [hr]
      | error err =>
          rw [houtcome] at heff
          simp only at heff
          subst heff
          refine .trying ?_ ?_ ha ?_
          · intro o ho
            rcases List.mem_append.1 ho with hold | hnew
            · exact hf o hold
            · rw [List.mem_singleton.1 hnew]
              rfl
          · show a.connects - 1 + (a.timers + 1) = 1
            omega
          · show a.reports ++ [.failure 1] = _
            rw [hr, List.length_append, List.length_singleton, List.replicate_succ']
  | acknowledged hf hp ha hr => omega
  | connected hf hp ha hr => omega

/-- The spawned task runs once, after the success that spawned it. -/
theorem Attempted.acked {outcomes : List Outcome} {a a' : NodeActor} (h : Attempted outcomes a)
    (heff : a.Effect .connected a') : Attempted outcomes a' := by
  obtain ⟨hpos, rfl⟩ := heff
  cases h with
  | trying hf hp ha hr => omega
  | acknowledged hf hp ha hr =>
      refine .connected hf hp ?_ ?_
      · show a.acks - 1 = 0
        omega
      · show a.reports ++ [.connected] = _
        rw [hr, List.append_assoc]
        rfl
  | connected hf hp ha hr => omega

/-- **Every step moves along the chain.** -/
theorem step_attempted {outcomes : List Outcome} {a a' : NodeActor} {e : NodeEvent}
    (hs : a.node.status = .initialized) (h : Attempted outcomes a) (hstep : a.step e = .ok a') :
    Attempted (outcomes ++ a.attempted e) a' := by
  have heff := (step_cases hs hstep).2
  cases e with
  | connect exchange => exact h.connect heff
  | connected =>
      show Attempted (outcomes ++ []) a'
      rw [List.append_nil]
      exact h.acked heff
  | retry =>
      show Attempted (outcomes ++ []) a'
      rw [List.append_nil]
      obtain ⟨hpos, rfl⟩ := heff
      refine h.of_eq ?_ rfl rfl
      show a.connects + 1 + (a.timers - 1) = _
      omega
  | changeClusterConfig command =>
      show Attempted (outcomes ++ []) a'
      rw [List.append_nil, heff.2]
      exact h.of_eq rfl rfl rfl
  | _ =>
      show Attempted (outcomes ++ []) a'
      rw [List.append_nil, heff]
      exact h.of_eq rfl rfl rfl

theorem attempted_of_runs {a a' : NodeActor} {es : List NodeEvent}
    (h : Runs (StepOf NodeActor.step) a es a') (hs : a.node.status = .initialized)
    {before : List Outcome} (hbefore : Attempted before a) :
    Attempted (before ++ a.outcomes es) a' := by
  induction h generalizing before with
  | nil a =>
      rw [outcomes, List.append_nil]
      exact hbefore
  | @cons a a₁ _ e es hstep _ ih =>
      rw [outcomes_cons hstep, ← List.append_assoc]
      exact ih ((step_cases hs hstep).2.status.trans hs) (step_attempted hs hbefore hstep)

/-! ## What is pending can happen -/

/-- A `Connect` in the mailbox is handled whatever its exchange comes to. -/
theorem step_connect_isOk {a : NodeActor} (hs : a.node.status = .initialized)
    (hrunning : a.stopped = false) (hconnects : 0 < a.connects) (exchange : Outcome) :
    ∃ a', a.step (.connect exchange) = .ok a' := by
  obtain ⟨a', handled⟩ :
      ∃ a', { a with connects := a.connects - 1 }.handleConnect exchange = .ok a' :=
    ⟨_, handleConnect_eq { a with connects := a.connects - 1 } exchange hs⟩
  refine ⟨a', ?_⟩
  rw [step, if_neg (by simp [hrunning])]
  show (if a.connects = 0 then _ else _) = _
  rw [if_neg (by omega), handled]
  rfl

/-- An armed timer fires. -/
theorem step_retry_isOk {a : NodeActor} (hrunning : a.stopped = false) (htimers : 0 < a.timers) :
    ∃ a', a.step .retry = .ok a' := by
  refine ⟨{ a with timers := a.timers - 1, connects := a.connects + 1 }, ?_⟩
  simp only [step, hrunning, Bool.false_eq_true, if_false]
  exact if_neg (by omega)

/-- The task of a successful attempt reports `Connected`. -/
theorem step_connected_isOk {a : NodeActor} (hrunning : a.stopped = false) (hacks : 0 < a.acks) :
    ∃ a', a.step .connected = .ok a' ∧ a'.reports = a.reports ++ [.connected] := by
  refine ⟨{ a with acks := a.acks - 1, reports := a.reports ++ [.connected] }, ?_, rfl⟩
  simp only [step, hrunning, Bool.false_eq_true, if_false]
  rw [if_neg (by omega), handleConnectResult, applyStatusChange_eq _ _ (by simp), orPanic_eq_ok]
  rfl

/-! ## The chain of a started actor -/

/-- Is this a report of a failed attempt? -/
def IsFailureReport (status : NodeStatus) : Prop :=
  (∃ attempts, status = .failure attempts) ∨ status = .disconnected

/-- **One attempt is pending until the first success, none after it.** In every run of a node's actor, with
    whatever outcomes of its attempts and whatever other messages: as long as no attempt has succeeded, exactly
    one `Connect` or retry timer is pending, and if the actor is running it can be handled, with any
    exchange; once one has succeeded, none is pending and no attempt follows. After `k` failures and the
    success the reports are `k` reports of a failure, `WeaklyConnected` and then `Connected`, the last one
    by a task that is spawned until it has run. -/
theorem attempts_pending (id localId : NodeId) (info localInfo : NodeInfo) (proximity : Proximity)
    (es : List NodeEvent) (a : NodeActor)
    (h : Runs (StepOf NodeActor.step) (start (Node.new id info localId localInfo proximity)) es a) :
    let outcomes := (start (Node.new id info localId localInfo proximity)).outcomes es
    ((∀ o ∈ outcomes, o.isOk = false) →
      a.connects + a.timers = 1 ∧
        (a.stopped = false →
          (a.connects = 1 ∧ ∀ exchange, ∃ a', a.step (.connect exchange) = .ok a') ∨
            (a.timers = 1 ∧ ∃ a', a.step .retry = .ok a'))) ∧
    ((∃ o ∈ outcomes, o.isOk = true) → a.connects + a.timers = 0) ∧
    ∀ failed ack rest, outcomes = failed ++ .ok ack :: rest → (∀ o ∈ failed, o.isOk = false) →
      rest = [] ∧ ∃ failures : List NodeStatus, failures.length = failed.length ∧
        (∀ status ∈ failures, IsFailureReport status) ∧
        ((a.acks = 0 ∧ a.reports = failures ++ [.weaklyConnected, .connected]) ∨
          (a.acks = 1 ∧ a.reports = failures ++ [.weaklyConnected] ∧
            (a.stopped = false → ∃ a', a.step .connected = .ok a' ∧
              a'.reports = failures ++ [.weaklyConnected, .connected]))) := by
  intro outcomes
  have hs : a.node.status = .initialized := status_of_runs h rfl
  have hchain : Attempted outcomes a := attempted_of_runs h rfl (attempted_start _)
  clear_value outcomes
  refine ⟨fun hfailed => ?_, fun hsuccess => ?_, fun failed ack rest heq hfailed => ?_⟩
  · cases hchain with
    | trying hf hp ha hr =>
        refine ⟨hp, fun hrunning => ?_⟩
        rcases Nat.eq_zero_or_pos a.timers with htimers | htimers
        · exact .inl ⟨by omega, step_connect_isOk hs hrunning (by omega)⟩
        · exact .inr ⟨by omega, step_retry_isOk hrunning htimers⟩
    | acknowledged hf hp ha hr => cases hfailed _ (List.mem_append_right _ (List.mem_singleton_self _))
    | connected hf hp ha hr => cases hfailed _ (List.mem_append_right _ (List.mem_singleton_self _))
  · cases hchain with
    | trying hf hp ha hr =>
        obtain ⟨o, ho, hok⟩ := hsuccess
        rw [hf o ho] at hok
        cases hok
    | acknowledged hf hp ha hr => exact hp
    | connected hf hp ha hr => exact hp
  · have hreported : ∀ status ∈ List.replicate failed.length (NodeStatus.failure 1),
        IsFailureReport status := fun status hmem => .inl ⟨1, List.eq_of_mem_replicate hmem⟩
    cases hchain with
    | trying hf hp ha hr =>
        have hhead := hf (.ok ack) (by rw [heq]; simp)
        cases hhead
    | acknowledged hf hp ha hr =>
        obtain ⟨rfl, hrest⟩ := firstSuccess_unique heq hf hfailed
        refine ⟨hrest, _, List.length_replicate, hreported, .inr ⟨ha, hr, fun hrunning => ?_⟩⟩
        obtain ⟨a', hstep, hreports⟩ := step_connected_isOk hrunning (by omega)
        refine ⟨a', hstep, ?_⟩
        rw [hreports, hr, List.append_assoc]
        rfl
    | connected hf hp ha hr =>
        obtain ⟨rfl, hrest⟩ := firstSuccess_unique heq hf hfailed
        exact ⟨hrest, _, List.length_replicate, hreported, .inl ⟨ha, hr⟩⟩

/-- Two timeouts and a success of a remote node's actor, with a `Disconnect` and a new proximity between. -/
theorem attempts_pending_thirdTime :
    let timeout : NodeEvent := .connect (.error (.timeout "operation timed out"))
    let es : List NodeEvent :=
      [timeout, .disconnect, .retry, timeout, .updateProximity sampleRemote, .retry, .connect (.ok {}),
        .disconnect, .connected]
    let a := finalState NodeActor.step (start sampleNode) es
    a.connects + a.timers = 0 ∧ ∃ failures : List NodeStatus, failures.length = 2 ∧
      a.reports = failures ++ [.weaklyConnected, .connected] := by
  intro timeout es a
  have h := attempts_pending 2 1 _ _ sampleRemote es a (runs_finalState rfl)
  obtain ⟨-, failures, hlength, -, ⟨-, hreports⟩ | ⟨hacks, -⟩⟩ := h.2.2
    [.error (.timeout "operation timed out"), .error (.timeout "operation timed out")] {} [] rfl (by simp; rfl)
  · exact ⟨h.2.1 ⟨.ok {}, by decide, rfl⟩, failures, hlength, hreports⟩
  · exact absurd hacks (by decide)

end NodeActor

end RaftScaffold
