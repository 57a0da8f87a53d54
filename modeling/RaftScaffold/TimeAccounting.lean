import RaftScaffold.Duration
import RaftScaffold.Timeline
import RaftScaffold.Transition.Intervals

set_option autoImplicit false

/-! # Where the time went

`NetworkState::duration_in` adds up the time spent in one status, each stay in whole milliseconds. Since the
entries of a timeline follow one another without a gap, the seven statuses together account for all the time
since the first entry, up to less than a millisecond an entry (`NetworkState.durations_account`). -/

namespace RaftScaffold

open Transition

instance : Fintype Status where
  elems := {.joining, .weaklyUp, .up, .leaving, .exiting, .down, .removed}
  complete := by
    intro status
    cases status <;> decide

/-- `StatusEntry::duration_in`: an entry that is still open lasts until `now`. -/
def StatusEntry.durationIn (self : StatusEntry) (now : DateTime) : Duration :=
  let last := self.exit.getD now
  Duration.between last self.entry

namespace NetworkState

/-- `NetworkState::duration_in` at the clock reading `now`. The sum is an `i64`, which holds the
    milliseconds of any span between two readings of the clock. -/
def durationIn (self : NetworkState) (now : DateTime) (status : Status) : Except Panic StdDuration :=
  let millis :=
    ((self.log.filter fun e => e.status = status).map fun e => (e.durationIn now).numMilliseconds).sum
  expectOk "called `Result::unwrap()` on an `Err` value" OutOfRangeError.debug
    (Duration.milliseconds millis).toStd

/-! ## The timeline covers the time since its first entry -/

/-- The entries open at the readings the advances took. -/
theorem entries_of_runs {start : DateTime} {es : List (DateTime × Status)} {s : NetworkState}
    (hrun : Runs (StepOf advanceStep) (NetworkState.default start) es s) :
    s.log.map (·.entry) = start :: es.map Prod.fst := by
  refine hrun.invariant_history (I := fun es s => s.log.map (·.entry) = start :: es.map Prod.fst) ?_ rfl
  intro pre s e s' hentries hstep
  obtain ⟨old, hadv⟩ := doAdvanceState_eq_ok.1 hstep
  obtain ⟨-, -, -, ⟨previous, hprevious, hlog⟩, -, -⟩ := advance_eq_ok hadv
  obtain ⟨rest, hsplit⟩ := List.getLast?_eq_some_iff.1 hprevious
  -- closing the last entry leaves its reading
  rw [hsplit, List.map_append] at hentries
  rw [hlog, hsplit, List.dropLast_concat, List.map_append, List.map_append, List.map_append, ← List.cons_append,
    ← hentries]
  rfl

theorem Timeline.covers {s : NetworkState} (h : s.Timeline) (now : DateTime) :
    ∃ first ∈ s.log.head?,
      Covers (·.entry) (fun e : StatusEntry => e.exit.getD now) first.entry now s.log := by
  obtain ⟨first, hfirst, -⟩ := h.starts
  obtain ⟨rest, hlog⟩ := List.head?_eq_some_iff.1 hfirst
  refine ⟨first, hfirst, ?_⟩
  obtain ⟨last, hlast, -, hopen⟩ := h.current
  have hlinked := h.linked
  rw [hlog] at hlast hlinked ⊢
  refine covers_of_isChain (hlinked.imp fun earlier later hfollows => ?_) fun z hz => ?_
  · rw [hfollows.1]
    rfl
  · obtain rfl := Option.some.inj (hlast.symm.trans hz)
    rw [hopen]
    rfl

/-- The milliseconds that `durationIn` converts. -/
def millisIn (s : NetworkState) (now : DateTime) (status : Status) : Int :=
  ((s.log.filter fun e => e.status = status).map fun e => (e.durationIn now).numMilliseconds).sum

theorem millisIn_nonneg {s : NetworkState} {now t : DateTime}
    (hcovers : Covers (·.entry) (fun e : StatusEntry => e.exit.getD now) t now s.log)
    (hclock : (s.log.map (·.entry) ++ [now]).IsChain (· ≤ ·)) (status : Status) :
    0 ≤ s.millisIn now status := by
  refine (Transition.sum_tdiv (fun e : StatusEntry => e.exit.getD now - e.entry) (by decide) ?_).1
  intro e he
  have hle := hcovers.opens_le_closes hclock e (List.mem_of_mem_filter he)
  omega

/-- **The seven durations account for all the time.** After any accepted advances whose clock readings never
    decrease, and at any later reading `now`, every status has a duration, and together the durations are the
    milliseconds since the first entry, less fewer than one for each entry of the timeline. -/
theorem durations_account (start now : DateTime) (es : List (DateTime × Status)) (s : NetworkState)
    (hrun : Runs (StepOf advanceStep) (NetworkState.default start) es s)
    (hclock : (start :: es.map Prod.fst ++ [now]).IsChain (· ≤ ·)) :
    ∃ (first : StatusEntry) (spent : Status → StdDuration), s.log.head? = some first ∧
      (∀ status, s.durationIn now status = .ok (spent status)) ∧
      let elapsed := (Duration.between now first.entry).numMilliseconds
      let total : Int := ∑ status, ((spent status).asMillis : Int)
      elapsed - s.log.length < total ∧ total ≤ elapsed := by
  obtain ⟨first, hfirst, hcovers⟩ := (timeline_of_runs hrun).covers now
  have hclock' : (s.log.map (·.entry) ++ [now]).IsChain (· ≤ ·) := by
    rw [entries_of_runs hrun]
    exact hclock
  have hspent : ∀ status, ∃ std, s.durationIn now status = .ok std ∧
      (std.asMillis : Int) = s.millisIn now status := by
    intro status
    obtain ⟨std, hstd, hmillis⟩ := Duration.toStd_milliseconds (millisIn_nonneg hcovers hclock' status)
    exact ⟨std, expectOk_eq_ok.2 hstd, hmillis⟩
  choose spent hspent hmillis using hspent
  refine ⟨first, spent, hfirst, hspent, ?_⟩
  intro elapsed total
  have hne : s.log ≠ [] := by
    rintro hnil
    rw [hnil] at hfirst
    cases hfirst
  have htotal : total = (s.log.map fun e => (e.exit.getD now - e.entry).tdiv 1000000).sum := by
    show ∑ status, ((spent status).asMillis : Int) = _
    simp only [hmillis]
    exact sum_filter StatusEntry.status _ s.log
  have hbounds := hcovers.sum_tdiv (by decide : (0 : Int) < 1000000) hclock' hne
  rw [htotal]
  exact hbounds

/-- Two stays in `Down`, with readings that are no whole milliseconds apart. -/
theorem durations_account_downTwice :
    let es : List (DateTime × Status) := [(1500000, .up), (3200000, .down), (3900000, .down)]
    let s := finalState advanceStep (NetworkState.default 0) es
    ∃ spent : Status → StdDuration, (∀ status, s.durationIn 9000000 status = .ok (spent status)) ∧
      (5 : Int) < ∑ status, ((spent status).asMillis : Int) ∧
      ∑ status, ((spent status).asMillis : Int) ≤ 9 := by
  intro es s
  obtain ⟨first, spent, hfirst, hspent, hbounds⟩ :=
    durations_account 0 9000000 es s (runs_finalState rfl) (by decide)
  obtain rfl := Option.some.inj hfirst
  exact ⟨spent, hspent, hbounds⟩

end NetworkState

end RaftScaffold
