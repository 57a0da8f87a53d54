import Mathlib.Data.List.Chain
import RaftScaffold.Lifecycle

set_option autoImplicit false

/-! # The timeline of a network state

`NetworkState` keeps its lifecycle twice: as the current `status`, and as a log of entries each of which
closes when the next one opens. Nothing but `advance` writes either. This file proves the log to be what
`timeline` and `duration_in` take it for: a path through the transition table whose last entry is the
current status, each entry left exactly when its successor was entered.

`advance` mutates the state field by field, and a panic leaves behind what was written until then, so
the function is also modelled statement by statement (`advanceInPlace`); it refines the pure version. -/

namespace RaftScaffold

open Transition

/-! ## The transition table -/

/-- The table allows `next` after `current`. -/
def Status.Allows (current next : Status) : Prop :=
  ∀ s : NetworkState, s.status = current → s.checkNextStatus next = .ok next

/-- The order the lifecycle goes through. -/
def Status.rank : Status → Nat
  | .joining => 0
  | .weaklyUp => 1
  | .up => 2
  | .leaving => 3
  | .exiting => 4
  | .down => 5
  | .removed => 6

/-- `later` may come some transitions after `earlier`: it ranks higher, or both are `Down`, the one
    status that may follow itself. -/
def Status.Precedes (earlier later : Status) : Prop :=
  earlier.rank < later.rank ∨ (earlier = .down ∧ later = .down)

namespace NetworkState

/-- The check reads the current status and nothing else of the state. -/
theorem allows_iff {s : NetworkState} {next : Status} :
    s.status.Allows next ↔ s.checkNextStatus next = .ok next := by
  constructor
  · intro h
    exact h s rfl
  · intro h s' hstatus
    unfold checkNextStatus at h ⊢
    rwa [hstatus]

end NetworkState

theorem Status.Allows.precedes {current next : Status} (h : current.Allows next) :
    current.Precedes next := by
  have hcheck := h { NetworkState.default 0 with status := current } rfl
  unfold Status.Precedes
  cases current <;> cases next <;> first | decide | cases hcheck

/-- Nothing follows `Removed`. -/
theorem Status.not_allows_removed (next : Status) : ¬ Status.Allows .removed next := by
  intro h
  have hcheck := h { NetworkState.default 0 with status := .removed } rfl
  cases hcheck

instance : Trans Status.Precedes Status.Precedes Status.Precedes where
  trans := by
    intro a b c hab hbc
    unfold Status.Precedes at *
    rcases hab with hab | ⟨rfl, rfl⟩
    · rcases hbc with hbc | ⟨rfl, rfl⟩
      · exact .inl (hab.trans hbc)
      · exact .inl hab
    · exact hbc

/-- Only `Down` precedes itself. -/
theorem Status.Precedes.ne {earlier later : Status} (h : earlier.Precedes later)
    (hdown : earlier ≠ .down) : earlier ≠ later := by
  rintro rfl
  rcases h with h | ⟨rfl, -⟩
  · exact absurd h (lt_irrefl _)
  · exact hdown rfl

/-- On a path through the table every status but `Down` occurs at most once: the others only ever give
    way to higher ones. -/
theorem count_le_one_of_allows {path : List Status} (h : path.IsChain Status.Allows)
    {status : Status} (hdown : status ≠ .down) : path.count status ≤ 1 := by
  have hpairs : path.Pairwise Status.Precedes :=
    List.isChain_iff_pairwise.1 (h.imp fun _ _ hallows => hallows.precedes)
  have hnodup : (path.filter (· ≠ .down)).Nodup := by
    rw [List.nodup_iff_pairwise_ne, List.pairwise_filter]
    refine hpairs.imp fun hprecedes hfirst _ => hprecedes.ne ?_
    simpa using hfirst
  calc path.count status
      = (path.filter (· ≠ .down)).count status := by
        rw [List.count_filter]
        simpa using hdown
    _ ≤ 1 := List.nodup_iff_count_le_one.1 hnodup status

namespace NetworkState

/-! ## The advance, statement by statement -/

/-- `NetworkState::advance` on the state in place: a panic leaves the state as it stood there. -/
def advanceInPlace (now : DateTime) (next : Status) : EStateM Panic NetworkState Status := do
  match (← get).checkNextStatus next with
  | .error e => throw ⟨"unexpected status transition: " ++ e.debug⟩
  | .ok _ => pure ()
  match (← get).log.getLast? with
  | none => throw ⟨"There's always at least one state entry"⟩
  | some previous =>
      modify fun s => { s with log := s.log.dropLast ++ [{ previous with exit := some now }] }
  let old := (← get).status
  let nextEntry := StatusEntry.new next now
  modify fun s => { s with status := nextEntry.status }
  modify fun s => { s with log := s.log ++ [nextEntry] }
  pure old

section InPlace

variable {α : Type} {s : NetworkState}

theorem get_bind (f : NetworkState → EStateM Panic NetworkState α) : (get >>= f) s = f s s := rfl

theorem modify_bind (g : NetworkState → NetworkState) (f : PUnit → EStateM Panic NetworkState α) :
    (modify g >>= f) s = f ⟨⟩ (g s) := rfl

theorem throw_bind {β : Type} (p : Panic) (f : β → EStateM Panic NetworkState α) :
    (throw p >>= f) s = .error p s := rfl

end InPlace

/-- **The in-place advance refines the pure one**: accepted, it leaves the state the pure one returns;
    refused, it leaves the state it found. -/
theorem advanceInPlace_eq (s : NetworkState) (now : DateTime) (next : Status) :
    advanceInPlace now next s =
      match s.advance now next with
      | .ok (old, s') => .ok old s'
      | .error p => .error p s := by
  unfold advanceInPlace advance
  cases hcheck : s.checkNextStatus next with
  | error e => simp only [get_bind, hcheck, throw_bind]
  | ok accepted =>
      cases hlast : s.log.getLast? with
      | none => simp only [get_bind, hcheck, hlast, throw_bind]
      | some previous =>
          simp only [get_bind, hcheck, hlast, modify_bind]
          rfl

/-! ## Timelines -/

/-- `later` opened when `earlier` closed, by a transition of the table. -/
def Follows (earlier later : StatusEntry) : Prop :=
  earlier.exit = some later.entry ∧ earlier.status.Allows later.status

/-- The log is a timeline of the current status. -/
structure Timeline (s : NetworkState) : Prop where
  starts : ∃ first ∈ s.log.head?, first.status = .joining
  current : ∃ last ∈ s.log.getLast?, last.status = s.status ∧ last.exit = none
  linked : s.log.IsChain Follows

theorem timeline_default (now : DateTime) : (NetworkState.default now).Timeline where
  starts := ⟨StatusEntry.new .joining now, rfl, rfl⟩
  current := ⟨StatusEntry.new .joining now, rfl, rfl, rfl⟩
  linked := List.isChain_singleton _

/-- An accepted advance keeps the timeline: the closed entry stays where its predecessor left for it,
    and the new one opens as it closes. -/
theorem Timeline.advance {s s' : NetworkState} {now : DateTime} {next old : Status}
    (h : s.Timeline) (hadv : s.advance now next = .ok (old, s')) : s'.Timeline := by
  obtain ⟨hcheck, -, hstatus, ⟨previous, hprevious, hlog⟩, -, -⟩ := advance_eq_ok hadv
  obtain ⟨last, hlast, hcurrent, -⟩ := h.current
  obtain rfl : previous = last := Option.some.inj (hprevious.symm.trans hlast)
  obtain ⟨rest, hsplit⟩ := List.getLast?_eq_some_iff.1 hprevious
  obtain ⟨hrest, -, hlink⟩ := List.isChain_append.1 (hsplit ▸ h.linked)
  rw [hsplit, List.dropLast_concat] at hlog
  have hallows : previous.status.Allows next := by
    rw [hcurrent]
    exact allows_iff.2 hcheck
  refine ⟨?_, ⟨StatusEntry.new next now, ?_, hstatus.symm, rfl⟩, ?_⟩
  · obtain ⟨first, hfirst, hjoining⟩ := h.starts
    rw [hlog]
    rw [hsplit] at hfirst
    cases rest with
    | nil =>
        -- the first entry is the one being closed
        obtain rfl : previous = first := Option.some.inj hfirst
        exact ⟨_, rfl, hjoining⟩
    | cons e rest => exact ⟨first, hfirst, hjoining⟩
  · rw [hlog]
    exact List.getLast?_concat
  · rw [hlog]
    refine List.isChain_append.2 ⟨?_, List.isChain_singleton _, ?_⟩
    · refine List.isChain_append.2 ⟨hrest, List.isChain_singleton _, ?_⟩
      rintro e he _ ⟨⟩
      exact hlink e he previous rfl
    · intro e he e' he'
      rw [List.getLast?_concat] at he
      obtain rfl := Option.some.inj he
      obtain rfl := Option.some.inj he'
      exact ⟨rfl, hallows⟩

/-- Status and log are all a timeline is about. -/
theorem Timeline.of_eq {s s' : NetworkState} (h : s.Timeline) (hstatus : s'.status = s.status)
    (hlog : s'.log = s.log) : s'.Timeline where
  starts := by
    rw [hlog]
    exact h.starts
  current := by
    rw [hlog, hstatus]
    exact h.current
  linked := by
    rw [hlog]
    exact h.linked

theorem Timeline.advanceStateOnRaftStatus {s s' : NetworkState} {now : DateTime} {m : RaftMetrics}
    (h : s.Timeline) (hadv : s.advanceStateOnRaftStatus now m = .ok s') : s'.Timeline := by
  rcases advanceStateOnRaftStatus_cases hadv with ⟨-, rfl⟩ | ⟨next, old, -, hnext⟩
  · exact h
  · exact h.advance hnext

/-! ## Over runs of accepted advances -/

/-- The state after an accepted advance; a refused one has no successor. -/
def advanceStep (s : NetworkState) (e : DateTime × Status) : Except Panic NetworkState :=
  s.doAdvanceState e.1 e.2

theorem Timeline.step {s s' : NetworkState} {e : DateTime × Status} (h : s.Timeline)
    (hstep : StepOf advanceStep s e s') : s'.Timeline := by
  obtain ⟨old, hadv⟩ := doAdvanceState_eq_ok.1 hstep
  exact h.advance hadv

theorem timeline_of_runs {start : DateTime} {es : List (DateTime × Status)} {s : NetworkState}
    (hrun : Runs (StepOf advanceStep) (NetworkState.default start) es s) : s.Timeline :=
  hrun.invariant (fun _ _ _ h hstep => h.step hstep) (timeline_default start)

/-- In place, the accepted advances are the steps of a run. -/
theorem advanceInPlace_ok_iff (s s' : NetworkState) (now : DateTime) (next : Status) :
    StepOf advanceStep s (now, next) s' ↔ ∃ old, advanceInPlace now next s = .ok old s' := by
  rw [stepOf_iff, advanceStep, doAdvanceState_eq_ok, advanceInPlace_eq]
  cases s.advance now next with
  | error p => simp
  | ok r => simp [Prod.ext_iff]

/-- A panicking advance leaves the state as it was. -/
theorem advanceInPlace_error {s s' : NetworkState} {now : DateTime} {next : Status} {p : Panic}
    (h : advanceInPlace now next s = .error p s') : s' = s := by
  rw [advanceInPlace_eq] at h
  cases hadv : s.advance now next with
  | error q =>
      rw [hadv] at h
      cases h
      rfl
  | ok r =>
      rw [hadv] at h
      cases h

/-- An advance the table does not allow panics. -/
theorem advanceInPlace_of_not_allows {s : NetworkState} {next : Status} (now : DateTime)
    (h : ¬ s.status.Allows next) : ∃ p, advanceInPlace now next s = .error p s := by
  rw [advanceInPlace_eq]
  cases hadv : s.advance now next with
  | error p => exact ⟨p, rfl⟩
  | ok r => exact absurd (allows_iff.2 (advance_eq_ok hadv).1) h

/-- **The timeline of every run of accepted advances**: it starts with `Joining` and ends with the
    current status still open; every earlier entry was left when its successor was entered, by a
    transition of the table, so that `Removed` is only ever last and only `Down` can recur; and an
    advance the table refuses panics before it has written anything. The advances of the run are those
    that the statements of `advance` make in place. -/
theorem timeline_of_advances {start : DateTime} {es : List (DateTime × Status)} {s : NetworkState}
    (hrun : Runs (StepOf advanceStep) (NetworkState.default start) es s) :
    (∃ first rest, s.log = first :: rest ∧ first.status = .joining) ∧
    (∃ earlier last, s.log = earlier ++ [last] ∧ last.status = s.status ∧ last.exit = none) ∧
    (∀ i earlier later, s.log[i]? = some earlier → s.log[i + 1]? = some later →
      earlier.exit = some later.entry ∧ earlier.status.Allows later.status) ∧
    (∀ i e, s.log[i]? = some e → e.status = .removed → i + 1 = s.log.length) ∧
    (∀ status, status ≠ .down → (s.log.map (·.status)).count status ≤ 1) ∧
    (∀ now next, ¬ s.status.Allows next → ∃ p s', advanceInPlace now next s = .error p s') ∧
    (∀ now next p s', advanceInPlace now next s = .error p s' →
      s'.status = s.status ∧ s'.log = s.log) ∧
    (∀ now next s', StepOf advanceStep s (now, next) s' ↔ ∃ old, advanceInPlace now next s = .ok old s') := by
  have htimeline := timeline_of_runs hrun
  have hlinks : ∀ i earlier later, s.log[i]? = some earlier → s.log[i + 1]? = some later →
      Follows earlier later := by
    intro i earlier later hearlier hlater
    obtain ⟨hi, rfl⟩ := List.getElem?_eq_some_iff.1 hearlier
    obtain ⟨hi', rfl⟩ := List.getElem?_eq_some_iff.1 hlater
    exact List.isChain_iff_getElem.1 htimeline.linked i hi'
  refine ⟨?_, ?_, hlinks, ?_, ?_, ?_, ?_, fun now next s' => advanceInPlace_ok_iff s s' now next⟩
  · obtain ⟨first, hfirst, hjoining⟩ := htimeline.starts
    obtain ⟨rest, hlog⟩ := List.head?_eq_some_iff.1 hfirst
    exact ⟨first, rest, hlog, hjoining⟩
  · obtain ⟨last, hlast, hcurrent⟩ := htimeline.current
    obtain ⟨earlier, hlog⟩ := List.getLast?_eq_some_iff.1 hlast
    exact ⟨earlier, last, hlog, hcurrent⟩
  · intro i e he hremoved
    obtain ⟨hi, -⟩ := List.getElem?_eq_some_iff.1 he
    by_contra hlast
    -- a successor of a removed entry would be a transition out of `Removed`
    obtain ⟨-, hallows⟩ := hlinks i e s.log[i + 1] he (List.getElem?_eq_getElem (by omega))
    rw [hremoved] at hallows
    exact Status.not_allows_removed _ hallows
  · intro status hdown
    refine count_le_one_of_allows ?_ hdown
    exact List.isChain_map_of_isChain _ (fun _ _ hfollows => hfollows.2) htimeline.linked
  · intro now next hrefused
    obtain ⟨p, hp⟩ := advanceInPlace_of_not_allows now hrefused
    exact ⟨p, s, hp⟩
  · intro now next p s' herror
    obtain rfl := advanceInPlace_error herror
    exact ⟨rfl, rfl⟩

/-- A lifecycle with `Down` twice, up to `Removed`. -/
theorem timeline_of_advances_removed :
    let es : List (DateTime × Status) := [(1, .up), (2, .down), (3, .down), (4, .removed)]
    let s := finalState advanceStep (NetworkState.default 0) es
    (∃ earlier last, s.log = earlier ++ [last] ∧ last.status = s.status ∧ last.exit = none) ∧
      (s.log.map (·.status)).count .up ≤ 1 ∧ (s.log.map (·.status)).count .down = 2 := by
  intro es s
  have hrun : Runs (StepOf advanceStep) (NetworkState.default 0) es s := runs_finalState rfl
  have h := timeline_of_advances hrun
  exact ⟨h.2.1, h.2.2.2.2.1 .up (by decide), by decide⟩

end NetworkState

end RaftScaffold
