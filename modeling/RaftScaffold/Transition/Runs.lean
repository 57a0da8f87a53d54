import Mathlib.Data.List.Infix
import Mathlib.Data.Finset.Card

set_option autoImplicit false

/-! # Runs of a step relation

The general theory the actor models rest on: a machine is a relation `step s e s'` ("in state `s`
the event `e` leads to `s'`"), a run is a list of events with the state it ends in. An event the
machine cannot take, or one on which it dies, simply has no successor.

Besides the usual invariant rule (`Runs.invariant`) the file characterises the runs along which a
property *never* fails: if a step keeps the property exactly when it meets a guard, then the property
holds in every state of a run exactly when every step of the run meets the guard
(`holdsAlong_iff_guardedAlong`). Everything is stated for arbitrary states and events. -/

namespace Transition

variable {σ ε τ π : Type*}

/-- `Runs step s es s'`: from `s` the events `es`, taken in order, lead to `s'`. -/
inductive Runs (step : σ → ε → σ → Prop) : σ → List ε → σ → Prop
  | nil (s : σ) : Runs step s [] s
  | cons {s s' s'' : σ} {e : ε} {es : List ε} :
      step s e s' → Runs step s' es s'' → Runs step s (e :: es) s''

variable {step : σ → ε → σ → Prop}

@[simp] theorem Runs.nil_iff (s s' : σ) : Runs step s [] s' ↔ s' = s := by
  constructor
  · intro h; cases h; rfl
  · rintro rfl; exact .nil s'

@[simp] theorem Runs.cons_iff (s s'' : σ) (e : ε) (es : List ε) :
    Runs step s (e :: es) s'' ↔ ∃ s', step s e s' ∧ Runs step s' es s'' := by
  constructor
  · intro h; cases h with | cons h₁ h₂ => exact ⟨_, h₁, h₂⟩
  · rintro ⟨s', h₁, h₂⟩; exact .cons h₁ h₂

theorem Runs.append_iff (s s'' : σ) (es fs : List ε) :
    Runs step s (es ++ fs) s'' ↔ ∃ s', Runs step s es s' ∧ Runs step s' fs s'' := by
  induction es generalizing s with
  | nil => simp
  | cons e es ih =>
      simp only [List.cons_append, Runs.cons_iff, ih]
      constructor
      · rintro ⟨s₁, h, s₂, h₁, h₂⟩; exact ⟨s₂, ⟨s₁, h, h₁⟩, h₂⟩
      · rintro ⟨s₂, ⟨s₁, h, h₁⟩, h₂⟩; exact ⟨s₁, h, s₂, h₁, h₂⟩

theorem Runs.append {s s' s'' : σ} {es fs : List ε} (h₁ : Runs step s es s')
    (h₂ : Runs step s' fs s'') : Runs step s (es ++ fs) s'' :=
  (Runs.append_iff s s'' es fs).2 ⟨s', h₁, h₂⟩

theorem Runs.snoc {s s' s'' : σ} {es : List ε} {e : ε} (h₁ : Runs step s es s')
    (h₂ : step s' e s'') : Runs step s (es ++ [e]) s'' :=
  h₁.append (.cons h₂ (.nil s''))

/-! ## Invariants -/

/-- A property every step keeps is kept by every run. -/
theorem Runs.invariant {I : σ → Prop} (hkeep : ∀ s e s', I s → step s e s' → I s')
    {s s' : σ} {es : List ε} (h : Runs step s es s') (hs : I s) : I s' := by
  induction h with
  | nil s => exact hs
  | cons hstep _ ih => exact ih (hkeep _ _ _ hs hstep)

/-- The invariant rule for runs all of whose events satisfy `p`. -/
theorem Runs.invariant_of_forall {I : σ → Prop} {p : ε → Prop}
    (hkeep : ∀ s e s', p e → I s → step s e s' → I s')
    {s s' : σ} {es : List ε} (h : Runs step s es s') (hp : ∀ e ∈ es, p e) (hs : I s) : I s' := by
  induction h with
  | nil s => exact hs
  | cons hstep _ ih =>
      rw [List.forall_mem_cons] at hp
      exact ih hp.2 (hkeep _ _ _ hp.1 hs hstep)

/-- The invariant rule for properties that speak about the events taken so far. -/
theorem Runs.invariant_history {I : List ε → σ → Prop}
    (hkeep : ∀ pre s e s', I pre s → step s e s' → I (pre ++ [e]) s')
    {s s' : σ} {es : List ε} (h : Runs step s es s') (hs : I [] s) : I es s' := by
  suffices hall : ∀ pre, I pre s → I (pre ++ es) s' from hall [] hs
  clear hs
  induction h with
  | nil s =>
      intro pre hpre
      rwa [List.append_nil]
  | @cons s s₁ _ e es hstep _ ih =>
      intro pre hpre
      rw [List.append_cons]
      exact ih _ (hkeep pre s e s₁ hpre hstep)

/-- A run all of whose events satisfy `p` is a run of the restricted machine. -/
theorem Runs.restrict {p : ε → Prop} {s s' : σ} {es : List ε} (h : Runs step s es s')
    (hp : ∀ e ∈ es, p e) : Runs (fun s e s' => p e ∧ step s e s') s es s' := by
  induction h with
  | nil s => exact .nil s
  | cons hstep _ ih =>
      rw [List.forall_mem_cons] at hp
      exact .cons ⟨hp.1, hstep⟩ (ih hp.2)

/-! ## Properties that hold along a run

`HoldsAlong P s es` says that `P` holds in every state the run visits, `GuardedAlong C s es` that every
step the run takes is taken in a state that meets `C`. Both are stated on prefixes, so that they read
as "in every state reached". -/

/-- `P` holds in every state that a prefix of `es` reaches from `s`. -/
def HoldsAlong (step : σ → ε → σ → Prop) (P : σ → Prop) (s : σ) (es : List ε) : Prop :=
  ∀ pre s', pre <+: es → Runs step s pre s' → P s'

/-- Every event of `es` that is taken is taken in a state where `C` allows it. -/
def GuardedAlong (step : σ → ε → σ → Prop) (C : σ → ε → Prop) (s : σ) (es : List ε) : Prop :=
  ∀ pre e s' s'', (pre ++ [e]) <+: es → Runs step s pre s' → step s' e s'' → C s' e

theorem holdsAlong_cons {P : σ → Prop} {s : σ} {e : ε} {es : List ε} :
    HoldsAlong step P s (e :: es) ↔ P s ∧ ∀ s', step s e s' → HoldsAlong step P s' es := by
  constructor
  · intro h
    refine ⟨h [] s (List.nil_prefix) (.nil s), fun s' hstep pre s'' hpre hrun => ?_⟩
    exact h (e :: pre) s'' (List.cons_prefix_cons.2 ⟨rfl, hpre⟩) (.cons hstep hrun)
  · rintro ⟨hs, h⟩ pre s' hpre hrun
    cases hrun with
    | nil => exact hs
    | cons hstep hrest =>
        obtain ⟨rfl, hpre'⟩ := List.cons_prefix_cons.1 hpre
        exact h _ hstep _ _ hpre' hrest

theorem guardedAlong_cons {C : σ → ε → Prop} {s : σ} {e : ε} {es : List ε} :
    GuardedAlong step C s (e :: es) ↔ ∀ s', step s e s' → C s e ∧ GuardedAlong step C s' es := by
  constructor
  · intro h s' hstep
    refine ⟨h [] e s s' (by simp) (.nil s) hstep, fun pre e' s₁ s₂ hpre hrun hs => ?_⟩
    exact h (e :: pre) e' s₁ s₂ (List.cons_prefix_cons.2 ⟨rfl, hpre⟩) (.cons hstep hrun) hs
  · intro h pre e' s₁ s₂ hpre hrun hs
    cases hrun with
    | nil =>
        obtain ⟨rfl, -⟩ := List.cons_prefix_cons.1 hpre
        exact (h _ hs).1
    | cons hstep hrest =>
        obtain ⟨rfl, hpre'⟩ := List.cons_prefix_cons.1 hpre
        exact (h _ hstep).2 _ _ _ _ hpre' hrest hs

theorem guardedAlong_of_forall {C : σ → ε → Prop} {s : σ} {es : List ε} (h : ∀ e ∈ es, ∀ s, C s e) :
    GuardedAlong step C s es := by
  intro pre e s' s'' hpre _ _
  exact h e (hpre.subset (List.mem_append_right pre (List.mem_singleton_self e))) s'

/-- The invariant rule for runs all of whose steps are guarded. -/
theorem Runs.invariant_of_guarded {I : σ → Prop} {C : σ → ε → Prop}
    (hkeep : ∀ s e s', I s → C s e → step s e s' → I s') {s s' : σ} {es : List ε} (h : Runs step s es s')
    (hguard : GuardedAlong step C s es) (hs : I s) : I s' := by
  induction h with
  | nil s => exact hs
  | cons hstep _ ih =>
      obtain ⟨hfirst, hrest⟩ := guardedAlong_cons.1 hguard _ hstep
      exact ih hrest (hkeep _ _ _ hs hfirst hstep)

/-- Along a guarded run, what an invariant and the guard imply holds of every step. -/
theorem GuardedAlong.imp_of_invariant {I : σ → Prop} {C D : σ → ε → Prop} {s : σ} {es : List ε}
    (hguard : GuardedAlong step C s es) (hkeep : ∀ s e s', I s → C s e → step s e s' → I s')
    (himp : ∀ s e, I s → C s e → D s e) (hs : I s) : GuardedAlong step D s es := by
  intro pre e s' s'' hpre hrun hstep
  have hC := hguard pre e s' s'' hpre hrun hstep
  have hguard' : GuardedAlong step C s pre := fun pre' e' s₁ s₂ hpre' =>
    hguard pre' e' s₁ s₂ (hpre'.trans ((List.prefix_append pre [e]).trans hpre))
  exact himp s' e (hrun.invariant_of_guarded hkeep hguard' hs) hC

/-- Two properties that agree wherever an invariant holds hold along the same runs. -/
theorem holdsAlong_congr {I P Q : σ → Prop} (hkeep : ∀ s e s', I s → step s e s' → I s')
    (hPQ : ∀ s, I s → (P s ↔ Q s)) {s : σ} (hs : I s) (es : List ε) :
    HoldsAlong step P s es ↔ HoldsAlong step Q s es := by
  constructor
  · intro h pre s' hpre hrun
    exact (hPQ s' (hrun.invariant hkeep hs)).1 (h pre s' hpre hrun)
  · intro h pre s' hpre hrun
    exact (hPQ s' (hrun.invariant hkeep hs)).2 (h pre s' hpre hrun)

/-- **Guard characterisation.** If a step from a good state leads to a good state exactly when it meets
    the guard, then a run from a good state stays good throughout exactly when all its steps meet the
    guard. -/
theorem holdsAlong_iff_guardedAlong {P : σ → Prop} {C : σ → ε → Prop}
    (hstep : ∀ s e s', P s → step s e s' → (P s' ↔ C s e)) (s : σ) (es : List ε) (hs : P s) :
    HoldsAlong step P s es ↔ GuardedAlong step C s es := by
  induction es generalizing s with
  | nil =>
      constructor
      · intro _ pre e s' s'' hpre; simp at hpre
      · intro _ pre s' hpre hrun
        obtain rfl : pre = [] := by simpa using hpre
        cases hrun; exact hs
  | cons e es ih =>
      rw [holdsAlong_cons, guardedAlong_cons]
      -- the first step decides its guard, the rest of the run follows from the state it leads to
      constructor
      · rintro ⟨-, h⟩ s' hse
        have hs' : P s' := h s' hse [] s' List.nil_prefix (.nil s')
        exact ⟨(hstep s e s' hs hse).1 hs', (ih s' hs').1 (h s' hse)⟩
      · intro h
        refine ⟨hs, fun s' hse => ?_⟩
        obtain ⟨hC, hrest⟩ := h s' hse
        exact (ih s' ((hstep s e s' hs hse).2 hC)).2 hrest

/-! ## Executable machines

A deterministic machine is a function into `Except π`: `.error` is the machine's death. Its runs are
the successful folds of that function, so a concrete run is checked by evaluation. -/

/-- The step relation of a deterministic machine. -/
def StepOf (f : σ → ε → Except π σ) : σ → ε → σ → Prop := fun s e s' => f s e = .ok s'

@[simp] theorem stepOf_iff (f : σ → ε → Except π σ) (s s' : σ) (e : ε) :
    StepOf f s e s' ↔ f s e = .ok s' := Iff.rfl

theorem runs_stepOf_iff (f : σ → ε → Except π σ) (s s' : σ) (es : List ε) :
    Runs (StepOf f) s es s' ↔ es.foldlM f s = .ok s' := by
  induction es generalizing s with
  | nil => simp [pure, Except.pure, eq_comm]
  | cons e es ih =>
      simp only [Runs.cons_iff, stepOf_iff, ih, List.foldlM_cons]
      cases f s e <;> simp [bind, Except.bind]

/-- The state that the events `es` lead to, or `s` itself if the machine cannot take them all. -/
def finalState (f : σ → ε → Except π σ) (s : σ) (es : List ε) : σ :=
  match es.foldlM f s with
  | .ok s' => s'
  | .error _ => s

/-- A run is checked by evaluating it. -/
theorem runs_finalState {f : σ → ε → Except π σ} {s : σ} {es : List ε}
    (h : (es.foldlM f s).isOk = true) : Runs (StepOf f) s es (finalState f s es) := by
  rw [runs_stepOf_iff]
  unfold finalState
  cases hfold : es.foldlM f s with
  | ok s' => rfl
  | error p => rw [hfold] at h; cases h

theorem step_finalState {f : σ → ε → Except π σ} {s : σ} {e : ε} (h : (f s e).isOk = true) :
    StepOf f s e (finalState f s [e]) := by
  unfold finalState
  rw [List.foldlM_cons, stepOf_iff]
  cases hstep : f s e with
  | ok s' => rfl
  | error p => rw [hstep] at h; cases h

end Transition
