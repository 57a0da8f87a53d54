import Mathlib.Algebra.BigOperators.Group.List.Basic
import RaftScaffold.Transition.Runs

set_option autoImplicit false

/-! # Accounts

A machine that holds items: every state has a stock, an event brings items in and lets others go. If each step
balances, so does every run (`stock_of_runs`): nothing that came in is lost or doubled, except what was let go.
Stocks and flows are elements of any commutative monoid: numbers, or multisets of items.

Where the order matters, the steps report what they do in a list. If a view of the state is updated by the reports of
each step, it is updated by those of a run (`view_of_runs`). -/

namespace Transition

variable {σ ε π M : Type*} [AddCommMonoid M] {f : σ → ε → Except π σ}

/-- What flows in the steps that the events `es` make from `s`. -/
def totalAlong (f : σ → ε → Except π σ) (flow : σ → ε → M) : σ → List ε → M
  | _, [] => 0
  | s, e :: es =>
      flow s e +
        match f s e with
        | .ok s' => totalAlong f flow s' es
        | .error _ => 0

theorem totalAlong_cons {flow : σ → ε → M} {s s' : σ} {e : ε} {es : List ε} (hstep : f s e = .ok s') :
    totalAlong f flow s (e :: es) = flow s e + totalAlong f flow s' es := by
  rw [totalAlong, hstep]

/-- **A run balances** if its steps do. -/
theorem stock_of_runs (stock : σ → M) (inflow outflow : σ → ε → M) {I : σ → Prop}
    (hkeep : ∀ s e s', I s → f s e = .ok s' → I s')
    (hbalance : ∀ s e s', I s → f s e = .ok s' → stock s' + outflow s e = stock s + inflow s e)
    {s s' : σ} {es : List ε} (hrun : Runs (StepOf f) s es s') (hs : I s) :
    stock s' + totalAlong f outflow s es = stock s + totalAlong f inflow s es := by
  induction hrun with
  | nil s => rfl
  | @cons s s₁ s₂ e es hstep _ ih =>
      rw [totalAlong_cons hstep, totalAlong_cons hstep]
      calc stock s₂ + (outflow s e + totalAlong f outflow s₁ es)
          = stock s₂ + totalAlong f outflow s₁ es + outflow s e := by
            rw [add_comm (outflow s e), add_assoc]
        _ = stock s₁ + totalAlong f inflow s₁ es + outflow s e := by
            rw [ih (hkeep _ _ _ hs hstep)]
        _ = stock s₁ + outflow s e + totalAlong f inflow s₁ es := add_right_comm _ _ _
        _ = stock s + (inflow s e + totalAlong f inflow s₁ es) := by
            rw [hbalance _ _ _ hs hstep, add_assoc]

/-- What the events bring in whatever the state is. -/
theorem totalAlong_of_runs {flow : ε → M} {s s' : σ} {es : List ε} (hrun : Runs (StepOf f) s es s') :
    totalAlong f (fun _ e => flow e) s es = (es.map flow).sum := by
  induction hrun with
  | nil s => rfl
  | cons hstep _ ih => rw [totalAlong_cons hstep, ih, List.map_cons, List.sum_cons]

/-- Nothing flows in a run all of whose steps are guarded. -/
theorem totalAlong_eq_zero {flow : σ → ε → M} {C : σ → ε → Prop} (hC : ∀ s e, C s e → flow s e = 0)
    {s s' : σ} {es : List ε} (hrun : Runs (StepOf f) s es s') (hguard : GuardedAlong (StepOf f) C s es) :
    totalAlong f flow s es = 0 := by
  induction hrun with
  | nil s => rfl
  | cons hstep _ ih =>
      obtain ⟨hfirst, hrest⟩ := guardedAlong_cons.1 hguard _ hstep
      rw [totalAlong_cons hstep, hC _ _ hfirst, zero_add, ih hrest]

/-! ## Reports -/

section Reports

variable {β ν : Type*}

/-- What is reported by the steps that the events `es` make from `s`. -/
def reportsAlong (f : σ → ε → Except π σ) (report : σ → ε → List β) : σ → List ε → List β
  | _, [] => []
  | s, e :: es =>
      report s e ++
        match f s e with
        | .ok s' => reportsAlong f report s' es
        | .error _ => []

theorem reportsAlong_cons {report : σ → ε → List β} {s s' : σ} {e : ε} {es : List ε} (hstep : f s e = .ok s') :
    reportsAlong f report s (e :: es) = report s e ++ reportsAlong f report s' es := by
  rw [reportsAlong, hstep]

/-- **A run updates a view** of the state if its steps do. -/
theorem view_of_runs (view : σ → ν) (update : ν → β → ν) (report : σ → ε → List β)
    (hview : ∀ s e s', f s e = .ok s' → view s' = (report s e).foldl update (view s))
    {s s' : σ} {es : List ε} (hrun : Runs (StepOf f) s es s') :
    view s' = (reportsAlong f report s es).foldl update (view s) := by
  induction hrun with
  | nil s => rfl
  | cons hstep _ ih => rw [reportsAlong_cons hstep, List.foldl_append, ← hview _ _ _ hstep, ih]

end Reports

end Transition
