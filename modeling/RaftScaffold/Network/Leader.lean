import RaftScaffold.Network.Handlers

set_option autoImplicit false

/-! # Asking for the current leader

`Handler<GetCurrentLeader>` looks at the metrics; as long as they name no leader it waits a second and sends the
message to the network again with one attempt fewer. The network keeps handling other messages meanwhile,
so the metrics at the next look are arbitrary.

The retry unwraps `GetCurrentLeader::retry`, which is an error once no attempts remain. So the query is
answered if and only if one of its `attempts + 1` looks finds a leader (`leaderQuery_answered_iff`); the answer
`Ok(None)` that the documentation promises for an unknown leader is never given. -/

namespace RaftScaffold

open Transition

def Network.currentLeader (self : Network) : Option NodeId :=
  self.metrics.bind RaftMetrics.currentLeader

/-! ## The query as a machine -/

/-- The network handles the message, the message is lost, or the timer fires. -/
inductive LeaderQueryEvent where
  | look (network : Network)
  | lost (error : MailboxError)
  | wake (timer : Except TimerError Unit)

namespace LeaderQuery

def step : LeaderQuery → LeaderQueryEvent → Except Halt LeaderQuery
  | .queued msg, .look network => .ok (handle network msg)
  | .queued _, .lost err => .ok (.answered (.error (.actorMailBoxError err)))
  | .delayed msg, .wake timer => orPanic (afterDelay timer msg)
  | _, _ => .error .notEnabled

theorem handle_eq (network : Network) (msg : GetCurrentLeader) :
    handle network msg =
      match network.currentLeader with
      | some leader => .answered (.ok { leader := some leader })
      | none => .delayed msg := by
  unfold handle Network.currentLeader
  cases network.metrics <;> rfl

end LeaderQuery

/-! ## Looking again and again

`networks i` is the network at the `i`-th look. -/

/-- The events of `n` rounds: each looks and then waits, and nothing is lost. -/
def lookRounds (networks : Nat → Network) : Nat → List LeaderQueryEvent
  | 0 => []
  | n + 1 => lookRounds networks n ++ [.look (networks n), .wake (.ok ())]

/-- The leader found by the first of `n` looks that finds one. -/
def firstLeader (networks : Nat → Network) : Nat → Option NodeId
  | 0 => none
  | n + 1 => (firstLeader networks n).or (networks n).currentLeader

/-- What the query promises: it never panics, and by the end of `attempts + 1` looks it has been answered with
    the first leader found, or with `None` if no look found one. -/
def AnswersAsDocumented (attempts : UInt8) (networks : Nat → Network) : Prop :=
  (∃ es, es <+: lookRounds networks (attempts.toNat + 1) ∧
    Runs (StepOf LeaderQuery.step) (.queued { attempts }) es
      (.answered (.ok { leader := firstLeader networks (attempts.toNat + 1) }))) ∧
  ∀ es p, es <+: lookRounds networks (attempts.toNat + 1) →
    es.foldlM LeaderQuery.step (.queued { attempts }) ≠ .error (.panicked p)

theorem lookRounds_mono (networks : Nat → Network) {m n : Nat} (h : m ≤ n) :
    lookRounds networks m <+: lookRounds networks n := by
  induction h with
  | refl => exact List.prefix_refl _
  | step _ ih => exact ih.trans (List.prefix_append _ _)

theorem firstLeader_eq_none (networks : Nat → Network) (n : Nat) :
    firstLeader networks n = none ↔ ∀ i < n, (networks i).currentLeader = none := by
  induction n with
  | zero => simp [firstLeader]
  | succ n ih =>
      rw [firstLeader, Option.or_eq_none_iff, ih]
      constructor
      · rintro ⟨hbefore, hlast⟩ i hi
        rcases Nat.lt_succ_iff_lt_or_eq.1 hi with hlt | rfl
        · exact hbefore i hlt
        · exact hlast
      · exact fun h => ⟨fun i hi => h i (by omega), h n (by omega)⟩

/-- The look that finds the first leader. -/
theorem exists_first_look {networks : Nat → Network} {n : Nat} {leader : NodeId}
    (h : firstLeader networks n = some leader) :
    ∃ k < n, (networks k).currentLeader = some leader ∧ firstLeader networks k = none := by
  induction n with
  | zero => cases h
  | succ n ih =>
      cases hbefore : firstLeader networks n with
      | some found =>
          rw [firstLeader, hbefore] at h
          obtain ⟨k, hk, hlook, hfirst⟩ := ih (hbefore.trans h)
          exact ⟨k, by omega, hlook, hfirst⟩
      | none =>
          rw [firstLeader, hbefore] at h
          exact ⟨n, by omega, h, hbefore⟩

/-- After `n` looks without a leader, with attempts left, the message is back with `n` attempts fewer. -/
theorem lookRounds_run (networks : Nat → Network) (attempts : UInt8) (n : Nat)
    (hn : n ≤ attempts.toNat) (hnone : firstLeader networks n = none) :
    ∃ left : UInt8, left.toNat = attempts.toNat - n ∧
      Runs (StepOf LeaderQuery.step) (.queued { attempts }) (lookRounds networks n)
        (.queued { attempts := left }) := by
  -- each round spends one attempt
  induction n with
  | zero => exact ⟨attempts, rfl, .nil _⟩
  | succ n ih =>
      rw [firstLeader, Option.or_eq_none_iff] at hnone
      obtain ⟨left, hleft, hrun⟩ := ih (by omega) hnone.1
      have hpos : 0 < left := UInt8.lt_iff_toNat_lt.2 (by rw [hleft]; simp; omega)
      have hlook : LeaderQuery.step (.queued { attempts := left }) (.look (networks n)) =
          .ok (.delayed { attempts := left }) := by
        simp only [LeaderQuery.step, LeaderQuery.handle_eq, hnone.2]
      have hwake : LeaderQuery.step (.delayed { attempts := left }) (.wake (.ok ())) =
          .ok (.queued { attempts := left - 1 }) := by
        simp [LeaderQuery.step, LeaderQuery.afterDelay, GetCurrentLeader.retry, hpos, orPanic,
          Except.mapError]
      have hone : (1 : UInt8) ≤ left := UInt8.le_iff_toNat_le.2 (by rw [hleft]; simp; omega)
      refine ⟨left - 1, ?_, hrun.append (.cons hlook (.cons hwake (.nil _)))⟩
      rw [UInt8.toNat_sub_of_le _ _ hone, hleft]
      simp
      omega

/-- The look that finds a leader answers the query. -/
theorem look_answers (network : Network) (msg : GetCurrentLeader) (leader : NodeId)
    (h : network.currentLeader = some leader) :
    StepOf LeaderQuery.step (.queued msg) (.look network)
      (.answered (.ok { leader := some leader })) := by
  simp only [stepOf_iff, LeaderQuery.step, LeaderQuery.handle_eq, h]

/-- Without a leader, the last wait ends in the panic of `retry().unwrap()`. -/
theorem lookRounds_panics (networks : Nat → Network) (attempts : UInt8)
    (hnone : firstLeader networks (attempts.toNat + 1) = none) :
    (lookRounds networks (attempts.toNat + 1)).foldlM LeaderQuery.step (.queued { attempts }) =
      .error (.panicked ⟨"called `Result::unwrap()` on an `Err` value: ()"⟩) := by
  rw [firstLeader, Option.or_eq_none_iff] at hnone
  obtain ⟨left, hleft, hrun⟩ := lookRounds_run networks attempts attempts.toNat (by omega) hnone.1
  obtain rfl : left = 0 := UInt8.toNat_inj.1 (by rw [hleft]; simp)
  rw [runs_stepOf_iff] at hrun
  rw [lookRounds, List.foldlM_append, hrun]
  simp only [List.foldlM_cons, bind, Except.bind, LeaderQuery.step, LeaderQuery.handle_eq, hnone.2]
  rfl

/-- **When the leader query is answered.** For every number of attempts and every evolution of the network,
    the query is answered as documented if and only if one of its `attempts + 1` looks finds a leader. -/
theorem leaderQuery_answered_iff (attempts : UInt8) (networks : Nat → Network) :
    AnswersAsDocumented attempts networks ↔
      ∃ i ≤ attempts.toNat, (networks i).currentLeader.isSome := by
  constructor
  · rintro ⟨-, hsafe⟩
    by_contra hno
    push Not at hno
    refine hsafe _ _ (List.prefix_refl _) (lookRounds_panics networks attempts ?_)
    rw [firstLeader_eq_none]
    exact fun i hi => by simpa using hno i (by omega)
  · rintro ⟨i, hi, hlook⟩
    obtain ⟨leader, hfirst⟩ :
        ∃ leader, firstLeader networks (attempts.toNat + 1) = some leader := by
      rw [← Option.ne_none_iff_exists', Ne, firstLeader_eq_none]
      exact fun hnone => by simp [hnone i (by omega)] at hlook
    obtain ⟨k, hk, hleader, hnone⟩ := exists_first_look hfirst
    obtain ⟨left, -, hrun⟩ := lookRounds_run networks attempts k (by omega) hnone
    have hanswer := hrun.snoc (look_answers _ _ _ hleader)
    have hprefix : lookRounds networks k ++ [.look (networks k)] <+:
        lookRounds networks (attempts.toNat + 1) :=
      List.IsPrefix.trans ⟨[.wake (.ok ())], by simp [lookRounds]⟩
        (lookRounds_mono networks (show k + 1 ≤ attempts.toNat + 1 by omega))
    rw [AnswersAsDocumented, hfirst]
    refine ⟨⟨_, hprefix, hanswer⟩, fun es p hes => ?_⟩
    rw [runs_stepOf_iff] at hanswer
    -- a run along the schedule either stops before the answer or has nothing left to do after it
    rcases List.prefix_or_prefix_of_prefix hes hprefix with ⟨rest, hrest⟩ | ⟨rest, rfl⟩
    · rw [← hrest, List.foldlM_append] at hanswer
      cases hfold : es.foldlM LeaderQuery.step (.queued { attempts }) with
      | ok s => simp
      | error halt => rw [hfold] at hanswer; cases hanswer
    · rw [List.foldlM_append, hanswer]
      cases rest with
      | nil => simp [pure, Except.pure, bind, Except.bind]
      | cons e rest => cases e <;> simp [bind, Except.bind, LeaderQuery.step]

/-- A new network has no metrics, so the default query panics it after four looks. -/
theorem leaderQuery_panics : ¬ ∀ attempts networks, AnswersAsDocumented attempts networks := by
  intro hall
  have hsafe := (hall GetCurrentLeader.default.attempts fun _ => Host.sampleNew.network).2
  exact hsafe _ _ (List.prefix_refl _) rfl

end RaftScaffold
